import Mathlib.Data.List.DropRight
import Mathlib.Data.List.Nodup
import Workings.Backlog
import Workings.Proofs.Ranking

/-!
# The accounts of the backlog

What happened to a backlog tells what is in it: the requests that were made since it was last
cleared, those that were drained since then with a worksheet, and the others waiting. Every step of
the backlog keeps to these accounts. So no request is lost, none is drained twice, and each of them
waits, is finished or was discarded.
-/

namespace Workings.Backlog

/-- Something that happens to a backlog. -/
inductive Happening where
  | enqueued (request : Request)
  | drained (id : Nat) (sheet : Worksheet)
  | cleared

/-- What has happened to a backlog, the latest at the end. -/
abbrev History := List Happening

namespace Happening

/-- Whether the backlog was cleared. -/
@[simp] def isCleared : Happening → Bool
  | .cleared => true
  | _ => false

/-- The request that was made. -/
@[simp] def request? : Happening → Option Request
  | .enqueued request => some request
  | _ => none

/-- The number of the request that was drained, and its worksheet. -/
@[simp] def draining? : Happening → Option (Nat × Worksheet)
  | .drained id sheet => some (id, sheet)
  | _ => none

end Happening

namespace History

/-- All requests that were made, in their order. -/
def requests (history : History) : List Request :=
  history.filterMap Happening.request?

/-- All requests that were drained, in their order. -/
def drainings (history : History) : List (Nat × Worksheet) :=
  history.filterMap Happening.draining?

/-- What happened up to the last time that the backlog was cleared. -/
def past (history : History) : History :=
  history.rdropWhile fun happening => !happening.isCleared

/-- What happened since the backlog was last cleared. -/
def current (history : History) : History :=
  history.rtakeWhile fun happening => !happening.isCleared

/-- Whether a request was drained. -/
def isDrained (history : History) (id : Nat) : Bool :=
  history.drainings.any fun draining => draining.1 = id

/-- The worksheets with which a request was drained. -/
def sheets (history : History) (id : Nat) : List Worksheet :=
  (history.drainings.filter fun draining => draining.1 = id).map Prod.snd

/-- The requests that were not drained and not cleared away. -/
def waiting (history : History) : List Request :=
  history.current.requests.filter fun request => !history.isDrained request.id

/-- The requests that were drained and not cleared away. -/
def finished (history : History) : List Request :=
  history.current.requests.filter fun request => history.isDrained request.id

/-- The requests that were cleared away, drained or not. -/
def discarded (history : History) : List Request :=
  history.past.requests

end History

open History

/-- What becomes of a request. -/
inductive Fate where
  | waiting
  | finished (sheet : Worksheet)
  | discarded

/-- The worksheet that is recorded for a request with the fate. -/
def Fate.sheet? : Fate → Option Worksheet
  | .finished sheet => some sheet
  | .waiting | .discarded => none

/-- A request has met with a fate. One that is finished was drained once. -/
def Request.Meets (request : Request) (history : History) : Fate → Prop
  | .waiting => request ∈ history.waiting
  | .finished sheet => request ∈ history.finished ∧ history.sheets request.id = [sheet]
  | .discarded => request ∈ history.discarded

/-- A request is at least as urgent as others, and was made first of those that are as urgent. -/
def Request.Leads (request : Request) (others : List Request) : Prop :=
  ∀ other ∈ others, other.priority < request.priority
    ∨ other.priority = request.priority ∧ request.id ≤ other.id

/-! ## Histories that go on -/

section Histories

variable (history : History) {happening : Happening}

/-- The past and what happened since make up the history. -/
theorem past_append_current : history.past ++ history.current = history :=
  List.rdropWhile_append_rtakeWhile

/-- The requests are those of the past and those made since. -/
theorem requests_eq : history.requests = history.past.requests ++ history.current.requests := by
  conv_lhs => rw [← past_append_current history]
  exact List.filterMap_append

/-- The drained requests are those of the past and those drained since. -/
theorem drainings_eq :
    history.drainings = history.past.drainings ++ history.current.drainings := by
  conv_lhs => rw [← past_append_current history]
  exact List.filterMap_append

/-- A history with one more request. -/
@[simp] theorem requests_concat :
    requests (history ++ [happening]) = history.requests ++ happening.request?.toList := by
  cases happening <;> simp [requests, Happening.request?]

/-- A history with one more drained request. -/
@[simp] theorem drainings_concat :
    drainings (history ++ [happening]) = history.drainings ++ happening.draining?.toList := by
  cases happening <;> simp [drainings, Happening.draining?]

/-- A request is drained if it was before or is drained now. -/
@[simp] theorem isDrained_concat (id : Nat) :
    isDrained (history ++ [happening]) id
      = (history.isDrained id || happening.draining?.any fun draining => draining.1 = id) := by
  cases happening <;> simp [isDrained, Happening.draining?]

/-- What happened since the backlog was last cleared goes on until it is cleared again. -/
@[simp] theorem current_concat :
    current (history ++ [happening])
      = if happening.isCleared then [] else history.current ++ [happening] := by
  cases happening <;> simp [current]

/-- The past stays as it is until the backlog is cleared. -/
@[simp] theorem past_concat :
    past (history ++ [happening])
      = if happening.isCleared then history ++ [happening] else history.past := by
  cases happening <;> simp [past]

end Histories

/-- A request that was cleared away was made. -/
theorem mem_requests_of_past {history : History} {request : Request}
    (member : request ∈ history.past.requests) : request ∈ history.requests := by
  rw [requests_eq]
  exact List.mem_append_left _ member

/-- A request that was made since the backlog was last cleared was made. -/
theorem mem_requests_of_current {history : History} {request : Request}
    (member : request ∈ history.current.requests) : request ∈ history.requests := by
  rw [requests_eq]
  exact List.mem_append_right _ member

/-- What was drained since the backlog was last cleared was drained. -/
theorem mem_drainings_of_current {history : History} {draining : Nat × Worksheet}
    (member : draining ∈ history.current.drainings) : draining ∈ history.drainings := by
  rw [drainings_eq]
  exact List.mem_append_right _ member

/-- Only requests that were made are drained. -/
def Grounded (history : History) : Prop :=
  ∀ draining ∈ history.drainings, ∃ request ∈ history.requests, request.id = draining.1

/-! ## The accounts -/

/-- What is in a backlog, by what has happened to it. -/
structure Accounts (backlog : Backlog) (history : History) : Prop where
  /-- The requests are numbered from nought in the order in which they were made. -/
  numbered : history.requests.map Request.id = List.range backlog.nextId
  waiting : backlog.waiting.Perm history.waiting
  ordered : Ranking.Ordered Request.precedes backlog.waiting
  results : backlog.results.Perm history.current.drainings
  once : (history.drainings.map Prod.fst).Nodup
  groundedPast : Grounded history.past
  grounded : Grounded history.current

/-- What a backlog goes through, and what happens to it then. -/
inductive Step (backlog : Backlog) : Option Happening → Backlog → Prop where
  | idle : Step backlog none backlog
  | enqueued (expression : String) (bindings : Bindings) (priority : Int) :
      Step backlog (some (.enqueued ⟨backlog.nextId, expression, bindings, priority⟩))
        (backlog.push expression bindings priority).2
  | drained {request : Request} {rest : Backlog} (pops : backlog.pop? = some (request, rest))
      (sheet : Worksheet) :
      Step backlog (some (.drained request.id sheet)) (rest.record request.id sheet)
  | cleared : Step backlog (some .cleared) backlog.clear

/-- A backlog that stays as it was is idle. -/
theorem Step.of_eq {backlog after : Backlog} (same : after = backlog) : backlog.Step none after :=
  same ▸ .idle

/-- Of two requests one precedes the other by its priority or by its number. -/
theorem strict_precedes : Ranking.Strict Request.precedes where
  irrefl request := by simp [Request.precedes]
  trans first second third := by
    simp only [Request.precedes, Bool.or_eq_true, Bool.and_eq_true, decide_eq_true_eq]
    omega

/-- The first of the requests in their order leads them. -/
theorem leads_of_ordered {request : Request} {rest : List Request}
    (ordered : Ranking.Ordered Request.precedes (request :: rest)) :
    request.Leads (request :: rest) := by
  intro other member
  rcases List.mem_cons.1 member with rfl | behind
  · exact .inr ⟨rfl, Nat.le_refl _⟩
  · have notBefore := (List.pairwise_cons.1 ordered).1 other behind
    simp only [Request.precedes, Bool.or_eq_false_iff, Bool.and_eq_false_iff,
      decide_eq_false_iff_not] at notBefore
    omega

/-- Nothing is accounted for in an empty backlog. -/
theorem accounts_empty : Accounts .empty [] where
  numbered := rfl
  waiting := .refl _
  ordered := .nil
  results := .refl _
  once := .nil
  groundedPast := nofun
  grounded := nofun

/-- A request is drained if there is a worksheet with which it was. -/
theorem isDrained_iff {history : History} {id : Nat} :
    history.isDrained id = true ↔ ∃ draining ∈ history.drainings, draining.1 = id := by
  simp [isDrained]

namespace Accounts

variable {backlog after : Backlog} {history : History}

/-- No number is given twice. -/
theorem nodup_ids (accounts : backlog.Accounts history) :
    (history.requests.map Request.id).Nodup :=
  accounts.numbered ▸ List.nodup_range

/-- No number was given twice since the backlog was last cleared. -/
theorem nodup_ids_current (accounts : backlog.Accounts history) :
    (history.current.requests.map Request.id).Nodup := by
  have distinct := accounts.nodup_ids
  rw [requests_eq, List.map_append] at distinct
  exact (List.nodup_append.1 distinct).2.1

/-- No request was drained twice since the backlog was last cleared. -/
theorem once_current (accounts : backlog.Accounts history) :
    (history.current.drainings.map Prod.fst).Nodup := by
  have once := accounts.once
  rw [drainings_eq, List.map_append] at once
  exact (List.nodup_append.1 once).2.1

/-- Requests with the same number are one. -/
theorem eq_of_id_eq (accounts : backlog.Accounts history) {left right : Request}
    (leftMade : left ∈ history.requests) (rightMade : right ∈ history.requests)
    (same : left.id = right.id) : left = right :=
  List.inj_on_of_nodup_map accounts.nodup_ids leftMade rightMade same

/-- All requests that were made have smaller numbers than the next one. -/
theorem id_lt_nextId (accounts : backlog.Accounts history) {request : Request}
    (made : request ∈ history.requests) : request.id < backlog.nextId := by
  rw [← List.mem_range, ← accounts.numbered]
  exact List.mem_map_of_mem made

/-- What is drained was requested. -/
theorem made_of_drained (accounts : backlog.Accounts history) : Grounded history := by
  intro draining member
  rw [drainings_eq, List.mem_append] at member
  rcases member with past | current
  · obtain ⟨request, made, same⟩ := accounts.groundedPast draining past
    exact ⟨request, mem_requests_of_past made, same⟩
  · obtain ⟨request, made, same⟩ := accounts.grounded draining current
    exact ⟨request, mem_requests_of_current made, same⟩

/-- A request with the next number was not drained before. -/
theorem isDrained_nextId (accounts : backlog.Accounts history) :
    history.isDrained backlog.nextId = false := by
  rw [← Bool.not_eq_true, isDrained_iff]
  rintro ⟨draining, member, drainedNext⟩
  obtain ⟨request, made, same⟩ := accounts.made_of_drained draining member
  have lt := accounts.id_lt_nextId made
  omega

/-- A new request keeps the accounts. -/
theorem push (accounts : backlog.Accounts history) (expression : String) (bindings : Bindings)
    (priority : Int) :
    (backlog.push expression bindings priority).2.Accounts
      (history ++ [Happening.enqueued ⟨backlog.nextId, expression, bindings, priority⟩]) where
  numbered := by simp [Backlog.push, accounts.numbered, List.range_succ]
  waiting := by
    have unaccounted := accounts.isDrained_nextId
    have waiting_eq : History.waiting
          (history ++ [Happening.enqueued ⟨backlog.nextId, expression, bindings, priority⟩])
        = history.waiting ++ [⟨backlog.nextId, expression, bindings, priority⟩] := by
      simp [History.waiting, unaccounted]
    rw [waiting_eq]
    refine (Ranking.insert_perm _ _ _).trans ?_
    exact (accounts.waiting.cons _).trans (List.perm_append_singleton _ _).symm
  ordered := strict_precedes.ordered_insert _ accounts.ordered
  results := by simpa [Backlog.push] using accounts.results
  once := by simpa using accounts.once
  groundedPast := by simpa using accounts.groundedPast
  grounded := by
    intro draining member
    obtain ⟨request, made, same⟩ := accounts.grounded draining (by simpa using member)
    exact ⟨request, by simp [made], same⟩

/-- Clearing keeps the accounts. -/
theorem clear (accounts : backlog.Accounts history) :
    backlog.clear.Accounts (history ++ [Happening.cleared]) where
  numbered := by simpa [Backlog.clear] using accounts.numbered
  waiting := by simp [Backlog.clear, History.waiting, requests]
  ordered := .nil
  results := by simp [Backlog.clear, drainings]
  once := by simpa using accounts.once
  groundedPast := by
    intro draining member
    obtain ⟨request, made, same⟩ := accounts.made_of_drained draining (by simpa using member)
    exact ⟨request, by simp [made], same⟩
  grounded := by
    intro draining member
    simp [drainings] at member

/-- A request that waits was made since the backlog was last cleared, and not drained. -/
theorem of_waiting (accounts : backlog.Accounts history) {request : Request}
    (waits : request ∈ backlog.waiting) :
    request ∈ history.current.requests ∧ history.isDrained request.id = false := by
  simpa [History.waiting] using accounts.waiting.mem_iff.1 waits

/-- No two requests that wait have the same number. -/
theorem nodup_waiting (accounts : backlog.Accounts history) :
    (backlog.waiting.map Request.id).Nodup :=
  (accounts.waiting.map _).nodup_iff.2
    (accounts.nodup_ids_current.sublist (List.filter_sublist.map _))

/-- Draining the first request that waits keeps the accounts. -/
theorem record (accounts : backlog.Accounts history) {request : Request} {rest : List Request}
    (waiting_eq : backlog.waiting = request :: rest) (sheet : Worksheet) :
    (Backlog.record { backlog with waiting := rest } request.id sheet).Accounts
      (history ++ [Happening.drained request.id sheet]) := by
  obtain ⟨made, undrained⟩ := accounts.of_waiting (waiting_eq ▸ List.mem_cons_self)
  have fresh : ∀ draining ∈ history.drainings, draining.1 ≠ request.id := by
    intro draining member same
    rw [isDrained_iff.2 ⟨draining, member, same⟩] at undrained
    contradiction
  have distinct := accounts.nodup_waiting
  rw [waiting_eq, List.map_cons, List.nodup_cons] at distinct
  constructor
  case numbered => simpa [Backlog.record] using accounts.numbered
  case waiting =>
    have waiting_filter : History.waiting (history ++ [Happening.drained request.id sheet])
        = history.waiting.filter fun other => other.id ≠ request.id := by
      simp [History.waiting, List.filter_filter, eq_comm, Bool.and_comm]
    have others : backlog.waiting.filter (fun other => other.id ≠ request.id) = rest := by
      rw [waiting_eq, List.filter_cons_of_neg (by simp)]
      refine List.filter_eq_self.2 fun other member => ?_
      exact decide_eq_true fun same => distinct.1 (same ▸ List.mem_map_of_mem member)
    rw [waiting_filter]
    exact others ▸ accounts.waiting.filter _
  case ordered => exact (List.pairwise_cons.1 (waiting_eq ▸ accounts.ordered)).2
  case results =>
    -- Nothing was recorded for the request, so no worksheet gives way to the new one.
    have kept : backlog.results.filter (fun result => result.1 ≠ request.id) = backlog.results := by
      refine List.filter_eq_self.2 fun draining member => decide_eq_true ?_
      exact fresh draining (mem_drainings_of_current (accounts.results.mem_iff.1 member))
    simp only [Backlog.record, kept]
    simpa using (accounts.results.cons _).trans (List.perm_append_singleton _ _).symm
  case once => simpa [List.nodup_append, accounts.once] using fresh
  case groundedPast => simpa using accounts.groundedPast
  case grounded =>
    intro draining member
    have isEither : draining ∈ history.current.drainings ∨ draining = (request.id, sheet) := by
      simpa using member
    rcases isEither with earlier | rfl
    · obtain ⟨other, otherMade, same⟩ := accounts.grounded draining earlier
      exact ⟨other, by simpa using otherMade, same⟩
    · exact ⟨request, by simpa using made, rfl⟩

/-- Every step keeps the accounts. -/
theorem step (accounts : backlog.Accounts history) {happening? : Option Happening}
    (step : backlog.Step happening? after) : after.Accounts (history ++ happening?.toList) := by
  cases step with
  | idle => simpa using accounts
  | enqueued expression bindings priority => exact accounts.push expression bindings priority
  | cleared => exact accounts.clear
  | @drained request rest pops sheet =>
    unfold pop? at pops
    cases waiting_eq : backlog.waiting with
    | nil => simp [waiting_eq] at pops
    | cons first others =>
      rw [waiting_eq] at pops
      obtain ⟨rfl, rfl⟩ := Prod.mk.inj (Option.some.inj pops)
      exact accounts.record waiting_eq sheet

/-! ## What the accounts tell -/

/-- A request that was drained since the backlog was last cleared was also made since then. -/
theorem current_of_drained (accounts : backlog.Accounts history) {request : Request}
    (made : request ∈ history.requests) {draining : Nat × Worksheet}
    (drained : draining ∈ history.current.drainings) (same : draining.1 = request.id) :
    request ∈ history.current.requests := by
  obtain ⟨other, otherMade, otherSame⟩ := accounts.grounded draining drained
  rwa [← accounts.eq_of_id_eq (mem_requests_of_current otherMade) made (otherSame.trans same)]

/-- No request was made both before and after the backlog was last cleared. -/
theorem not_past_of_current (accounts : backlog.Accounts history) {request : Request}
    (current : request ∈ history.current.requests) : request ∉ history.past.requests := by
  intro past
  have distinct := accounts.nodup_ids
  rw [requests_eq, List.map_append] at distinct
  exact (List.nodup_append.1 distinct).2.2 _ (List.mem_map_of_mem past) _
    (List.mem_map_of_mem current) rfl

/-- A request that was made since the backlog was last cleared was not drained before. -/
theorem drained_current (accounts : backlog.Accounts history) {request : Request}
    (current : request ∈ history.current.requests) {draining : Nat × Worksheet}
    (drained : draining ∈ history.drainings) (same : draining.1 = request.id) :
    draining ∈ history.current.drainings := by
  rw [drainings_eq, List.mem_append] at drained
  refine drained.resolve_left fun past => ?_
  obtain ⟨other, otherPast, otherSame⟩ := accounts.groundedPast draining past
  obtain rfl := accounts.eq_of_id_eq (mem_requests_of_past otherPast)
    (mem_requests_of_current current) (otherSame.trans same)
  exact accounts.not_past_of_current current otherPast

/-- A request that was drained was drained with one worksheet. -/
theorem sheets_eq (accounts : backlog.Accounts history) {draining : Nat × Worksheet}
    (drained : draining ∈ history.drainings) : history.sheets draining.1 = [draining.2] := by
  have once := accounts.once
  unfold sheets
  obtain ⟨front, back, split⟩ := List.append_of_mem drained
  rw [split, List.map_append, List.map_cons, List.nodup_middle, List.nodup_cons, List.mem_append,
    not_or, List.mem_map, List.mem_map] at once
  have frontOthers : front.filter (fun other => other.1 = draining.1) = [] := by
    refine List.filter_eq_nil_iff.2 fun other member same => ?_
    exact once.1.1 ⟨other, member, of_decide_eq_true same⟩
  have backOthers : back.filter (fun other => other.1 = draining.1) = [] := by
    refine List.filter_eq_nil_iff.2 fun other member same => ?_
    exact once.1.2 ⟨other, member, of_decide_eq_true same⟩
  rw [split, List.filter_append, List.filter_cons_of_pos (by simp), frontOthers, backOthers]
  rfl

/-- No request is drained twice. -/
theorem length_sheets_le (accounts : backlog.Accounts history) (id : Nat) :
    (history.sheets id).length ≤ 1 := by
  cases drained : history.isDrained id with
  | true =>
    obtain ⟨draining, member, rfl⟩ := isDrained_iff.1 drained
    rw [accounts.sheets_eq member]
    exact Nat.le_refl 1
  | false =>
    have none : history.sheets id = [] := by
      simpa [sheets, isDrained] using drained
    simp [none]

/-- Every request has met with one fate. -/
theorem existsUnique_fate (accounts : backlog.Accounts history) {request : Request}
    (made : request ∈ history.requests) : ∃! fate, request.Meets history fate := by
  rw [requests_eq, List.mem_append] at made
  rcases made with past | current
  · refine ⟨.discarded, past, fun other meets => ?_⟩
    cases other with
    | discarded => rfl
    | waiting => exact absurd past (accounts.not_past_of_current (List.mem_of_mem_filter meets))
    | finished sheet =>
      exact absurd past (accounts.not_past_of_current (List.mem_of_mem_filter meets.1))
  · have notPast := accounts.not_past_of_current current
    cases drained : history.isDrained request.id with
    | false =>
      refine ⟨.waiting, by simp [Request.Meets, History.waiting, current, drained], ?_⟩
      intro other meets
      cases other with
      | waiting => rfl
      | discarded => exact absurd meets notPast
      | finished sheet => simp [Request.Meets, finished, drained] at meets
    | true =>
      obtain ⟨⟨id, sheet⟩, member, rfl⟩ := isDrained_iff.1 drained
      have sheets := accounts.sheets_eq member
      refine ⟨.finished sheet, ⟨by simp [finished, current, drained], sheets⟩, ?_⟩
      intro other meets
      cases other with
      | waiting => simp [Request.Meets, History.waiting, drained] at meets
      | discarded => exact absurd meets notPast
      | finished otherSheet =>
        obtain ⟨-, otherSheets⟩ := meets
        rw [sheets] at otherSheets
        exact congrArg Fate.finished (List.cons.inj otherSheets).1.symm

/-- Nothing is recorded under a number if nothing was drained under it since the backlog was last
cleared. -/
theorem result?_eq_none (accounts : backlog.Accounts history) {id : Nat}
    (undrained : ∀ draining ∈ history.current.drainings, draining.1 ≠ id) :
    backlog.result? id = none := by
  refine List.lookup_eq_none_iff.2 fun result recorded => ?_
  simpa using (undrained result (accounts.results.mem_iff.1 recorded)).symm

/-- What was drained since the backlog was last cleared is recorded. -/
theorem result?_eq_some (accounts : backlog.Accounts history) {draining : Nat × Worksheet}
    (drained : draining ∈ history.current.drainings) :
    backlog.result? draining.1 = some draining.2 := by
  have once := (accounts.results.map Prod.fst).nodup_iff.2 accounts.once_current
  obtain ⟨front, back, split⟩ := List.append_of_mem (accounts.results.mem_iff.2 drained)
  rw [split, List.map_append, List.map_cons, List.nodup_middle, List.nodup_cons] at once
  refine List.lookup_eq_some_iff.2 ⟨front, back, split, fun other member => ?_⟩
  refine bne_iff_ne.2 fun same => once.1 (List.mem_append_left _ ?_)
  exact same ▸ List.mem_map_of_mem member

/-- The worksheet that is recorded for a request is that of its fate. -/
theorem result?_eq (accounts : backlog.Accounts history) {request : Request} {fate : Fate}
    (meets : request.Meets history fate) : backlog.result? request.id = fate.sheet? := by
  cases fate with
  | waiting =>
    have undrained : history.isDrained request.id = false := by
      simpa using (List.mem_filter.1 meets).2
    refine accounts.result?_eq_none fun draining drained same => ?_
    rw [isDrained_iff.2 ⟨draining, mem_drainings_of_current drained, same⟩] at undrained
    contradiction
  | discarded =>
    refine accounts.result?_eq_none fun draining drained same => ?_
    have current := accounts.current_of_drained (mem_requests_of_past meets) drained same
    exact accounts.not_past_of_current current meets
  | finished sheet =>
    obtain ⟨isFinished, sheets⟩ := meets
    obtain ⟨current, isDrained⟩ := List.mem_filter.1 isFinished
    obtain ⟨draining, drained, same⟩ := isDrained_iff.1 isDrained
    have recorded := accounts.result?_eq_some (accounts.drained_current current drained same)
    rw [← same, accounts.sheets_eq drained] at sheets
    rw [← same, recorded, (List.cons.inj sheets).1]
    rfl

/-- As many worksheets are recorded as requests are finished. -/
theorem length_results (accounts : backlog.Accounts history) :
    backlog.results.length = history.finished.length := by
  have distinct : (history.finished.map Request.id).Nodup :=
    accounts.nodup_ids_current.sublist (List.filter_sublist.map _)
  have sameNumbers : (history.current.drainings.map Prod.fst).Perm
      (history.finished.map Request.id) := by
    refine (List.perm_ext_iff_of_nodup accounts.once_current distinct).2 fun id => ?_
    constructor
    · rintro member
      obtain ⟨draining, drained, rfl⟩ := List.mem_map.1 member
      obtain ⟨request, current, same⟩ := accounts.grounded draining drained
      have isDrained := isDrained_iff.2 ⟨draining, mem_drainings_of_current drained, same.symm⟩
      exact same ▸ List.mem_map_of_mem (List.mem_filter.2 ⟨current, isDrained⟩)
    · rintro member
      obtain ⟨request, isFinished, rfl⟩ := List.mem_map.1 member
      obtain ⟨current, isDrained⟩ := List.mem_filter.1 isFinished
      obtain ⟨draining, drained, same⟩ := isDrained_iff.1 isDrained
      exact same ▸ List.mem_map_of_mem (accounts.drained_current current drained same)
  simpa using accounts.results.length_eq.trans (by simpa using sameNumbers.length_eq)

/-- The request at the head of the backlog leads those that wait. -/
theorem leads_head (accounts : backlog.Accounts history) {request : Request} {rest : List Request}
    (waiting_eq : backlog.waiting = request :: rest) : request.Leads history.waiting := by
  intro other waits
  refine leads_of_ordered (waiting_eq ▸ accounts.ordered) other ?_
  exact waiting_eq ▸ accounts.waiting.mem_iff.2 waits

/-- The status counts the requests that wait and those that are finished, and has the highest
priority of those that wait. -/
theorem status_eq (accounts : backlog.Accounts history) :
    backlog.status = ⟨history.waiting.length, history.finished.length,
      (history.waiting.map Request.priority).max?⟩ := by
  have nextPriority : backlog.waiting.head?.map Request.priority
      = (history.waiting.map Request.priority).max? := by
    cases waiting_eq : backlog.waiting with
    | nil =>
      have none : history.waiting = [] := (waiting_eq ▸ accounts.waiting).nil_eq.symm
      simp [none]
    | cons request rest =>
      refine (List.max?_eq_some_iff.2 ⟨?_, ?_⟩).symm
      · exact List.mem_map_of_mem (accounts.waiting.mem_iff.1 (waiting_eq ▸ List.mem_cons_self))
      · intro priority member
        obtain ⟨other, waits, rfl⟩ := List.mem_map.1 member
        have leads := accounts.leads_head waiting_eq other waits
        omega
  rw [status, accounts.waiting.length_eq, accounts.length_results, nextPriority]

end Accounts

end Workings.Backlog
