import Workings.Formula.Catalog

/-!
# The standard catalog

Identities of algebra, arithmetic, trigonometry, calculus and geometry that are taught at school.
-/

namespace Workings.Catalog

/-- A row of the table of formulas. -/
def row (name pattern replacement : String) (grade : Nat) (category description topic : String) :
    Formula :=
  { name, pattern, replacement, grade, category, description, topic }

/-- Algebraic identities. -/
def algebra : List Formula :=
  [row "Perfect Square (a+b)²"
      r"\(([a-zA-Z])\s*\+\s*([a-zA-Z])\)\^2"
      r"(\1)^2 + 2*(\1)*(\2) + (\2)^2"
      8 "Algebraic Identities" "Square of a sum" "Algebra",
   row "Perfect Square (a-b)²"
      r"\(([a-zA-Z])\s*-\s*([a-zA-Z])\)\^2"
      r"(\1)^2 - 2*(\1)*(\2) + (\2)^2"
      8 "Algebraic Identities" "Square of a difference" "Algebra",
   row "Difference of Squares"
      r"([a-zA-Z])\^2\s*-\s*([a-zA-Z])\^2"
      r"((\1) + (\2))*((\1) - (\2))"
      8 "Algebraic Identities" "Difference of squares" "Algebra",
   row "Sum of Cubes"
      r"([a-zA-Z])\^3\s*\+\s*([a-zA-Z])\^3"
      r"((\1) + (\2))*((\1)^2 - (\1)*(\2) + (\2)^2)"
      9 "Algebraic Identities" "Sum of cubes" "Algebra",
   row "Difference of Cubes"
      r"([a-zA-Z])\^3\s*-\s*([a-zA-Z])\^3"
      r"((\1) - (\2))*((\1)^2 + (\1)*(\2) + (\2)^2)"
      9 "Algebraic Identities" "Difference of cubes" "Algebra",
   row "Common Factor"
      r"([a-zA-Z])\s*\*\s*([a-zA-Z])\s*\+\s*([a-zA-Z])\s*\*\s*([a-zA-Z])"
      r"(\1)*((\2) + (\4))"
      7 "Algebraic Identities" "Common factor extraction" "Algebra",
   row "Middle Term Factoring"
      r"([a-zA-Z])\^2\s*\+\s*2\s*\*\s*([a-zA-Z])\s*\*\s*([a-zA-Z])\s*\+\s*([a-zA-Z])\^2"
      r"((\1) + (\3))^2"
      8 "Algebraic Identities" "Middle term factoring" "Algebra",
   row "Binomial Expansion (a+b)^3"
      r"\(([a-zA-Z])\s*\+\s*([a-zA-Z])\)\^3"
      r"(\1)^3 + 3*(\1)^2*(\2) + 3*(\1)*(\2)^2 + (\2)^3"
      9 "Algebraic Identities" "Binomial expansion" "Algebra",
   row "Binomial Expansion (a-b)^3"
      r"\(([a-zA-Z])\s*-\s*([a-zA-Z])\)\^3"
      r"(\1)^3 - 3*(\1)^2*(\2) + 3*(\1)*(\2)^2 - (\2)^3"
      9 "Algebraic Identities" "Binomial expansion" "Algebra",
   row "Trinomial Square"
      r"\(([a-zA-Z])\s*\+\s*([a-zA-Z])\s*\+\s*([a-zA-Z])\)\^2"
      r"(\1)^2 + (\2)^2 + (\3)^2 + 2*(\1)*(\2) + 2*(\1)*(\3) + 2*(\2)*(\3)"
      9 "Algebraic Identities" "Trinomial square" "Algebra",
   row "Sum of Fourth Powers"
      r"([a-zA-Z])\^4\s*\+\s*([a-zA-Z])\^4"
      r"((\1)^2 + (\2)^2)^2 - 2*(\1)^2*(\2)^2"
      10 "Algebraic Identities" "Sum of fourth powers" "Algebra",
   row "Difference of Fourth Powers"
      r"([a-zA-Z])\^4\s*-\s*([a-zA-Z])\^4"
      r"((\1)^2 + (\2)^2)*((\1) + (\2))*((\1) - (\2))"
      10 "Algebraic Identities" "Difference of fourth powers" "Algebra",
   row "Complete the Square"
      r"([a-zA-Z])\^2\s*\+\s*([a-zA-Z])\s*\*\s*([a-zA-Z])\s*\+\s*([a-zA-Z])"
      r"((\1) + (\2)/2)^2 + (\4) - (\2)^2/4"
      9 "Algebraic Identities" "Complete the square" "Algebra"]

/-- Laws of addition and multiplication. -/
def arithmetic : List Formula :=
  [row "Commutative Addition"
      r"([a-zA-Z])\s*\+\s*([a-zA-Z])"
      r"(\2) + (\1)"
      6 "Arithmetic" "Commutative property of addition" "Arithmetic",
   row "Commutative Multiplication"
      r"([a-zA-Z])\s*\*\s*([a-zA-Z])"
      r"(\2) * (\1)"
      6 "Arithmetic" "Commutative property of multiplication" "Arithmetic",
   row "Associative Addition"
      r"\(([a-zA-Z])\s*\+\s*([a-zA-Z])\)\s*\+\s*([a-zA-Z])"
      r"(\1) + ((\2) + (\3))"
      6 "Arithmetic" "Associative property of addition" "Arithmetic",
   row "Associative Multiplication"
      r"\(([a-zA-Z])\s*\*\s*([a-zA-Z])\)\s*\*\s*([a-zA-Z])"
      r"(\1) * ((\2) * (\3))"
      6 "Arithmetic" "Associative property of multiplication" "Arithmetic",
   row "Distributive Property"
      r"([a-zA-Z])\s*\*\s*\(([a-zA-Z])\s*\+\s*([a-zA-Z])\)"
      r"(\1)*(\2) + (\1)*(\3)"
      7 "Arithmetic" "Distributive property" "Arithmetic"]

/-- Sums, products and quotients of fractions. -/
def fractions : List Formula :=
  [row "Fraction Addition"
      r"([a-zA-Z])/([a-zA-Z])\s*\+\s*([a-zA-Z])/([a-zA-Z])"
      r"((\1)*(\4) + (\3)*(\2))/((\2)*(\4))"
      7 "Fractions" "Addition of fractions" "Fractions",
   row "Fraction Multiplication"
      r"([a-zA-Z])/([a-zA-Z])\s*\*\s*([a-zA-Z])/([a-zA-Z])"
      r"((\1)*(\3))/((\2)*(\4))"
      7 "Fractions" "Multiplication of fractions" "Fractions",
   row "Complex Fraction"
      r"\(([a-zA-Z])\s*/\s*([a-zA-Z])\)\s*/\s*\(([a-zA-Z])\s*/\s*([a-zA-Z])\)"
      r"((\1)*(\4))/((\2)*(\3))"
      8 "Fractions" "Complex fraction" "Fractions"]

/-- Laws of powers. -/
def powers : List Formula :=
  [row "Power of Zero"
      r"([a-zA-Z])\^0"
      r"1"
      7 "Powers" "Any number to power 0" "Powers",
   row "Power of One"
      r"([a-zA-Z])\^1"
      r"(\1)"
      7 "Powers" "Any number to power 1" "Powers",
   row "Rational Exponent"
      r"([a-zA-Z])\^\(([a-zA-Z])/([a-zA-Z])\)"
      r"((\1)^(\2))^(1/(\3))"
      9 "Powers" "Rational exponent" "Powers",
   row "Exponential Product"
      r"([a-zA-Z])\^([a-zA-Z])\s*\*\s*([a-zA-Z])\^([a-zA-Z])"
      r"(\1)^((\2) + (\4))"
      9 "Exponentials" "Product of exponentials" "Exponentials",
   row "Exponential Quotient"
      r"([a-zA-Z])\^([a-zA-Z])\s*/\s*([a-zA-Z])\^([a-zA-Z])"
      r"(\1)^((\2) - (\4))"
      9 "Exponentials" "Quotient of exponentials" "Exponentials",
   row "Power of Power"
      r"\(([a-zA-Z])\^([a-zA-Z])\)\^([a-zA-Z])"
      r"(\1)^((\2)*(\3))"
      9 "Exponentials" "Power of power" "Exponentials"]

/-- Square roots of squares, products and quotients. -/
def roots : List Formula :=
  [row "Square Root of Square"
      r"sqrt\(([a-zA-Z])\^2\)"
      r"abs((\1))"
      8 "Roots" "Square root of square" "Roots",
   row "Root of Product"
      r"sqrt\(([a-zA-Z])\s*\*\s*([a-zA-Z])\)"
      r"sqrt((\1))*sqrt((\2))"
      8 "Roots" "Root of product" "Roots",
   row "Root of Quotient"
      r"sqrt\(([a-zA-Z])\s*/\s*([a-zA-Z])\)"
      r"sqrt((\1))/sqrt((\2))"
      8 "Roots" "Root of quotient" "Roots"]

/-- Laws of logarithms. -/
def logarithms : List Formula :=
  [row "Log Product Rule"
      r"log\(([a-zA-Z])\s*\*\s*([a-zA-Z])\)"
      r"log((\1)) + log((\2))"
      9 "Logarithms" "Log of product" "Logarithms",
   row "Log Quotient Rule"
      r"log\(([a-zA-Z])\s*/\s*([a-zA-Z])\)"
      r"log((\1)) - log((\2))"
      9 "Logarithms" "Log of quotient" "Logarithms",
   row "Log Power Rule"
      r"log\(([a-zA-Z])\s*\^\s*([a-zA-Z])\)"
      r"(\2)*log((\1))"
      9 "Logarithms" "Log of power" "Logarithms",
   row "Natural Log Product"
      r"ln\(([a-zA-Z])\s*\*\s*([a-zA-Z])\)"
      r"ln((\1)) + ln((\2))"
      10 "Logarithms" "Natural log of product" "Logarithms",
   row "Natural Log Quotient"
      r"ln\(([a-zA-Z])\s*/\s*([a-zA-Z])\)"
      r"ln((\1)) - ln((\2))"
      10 "Logarithms" "Natural log of quotient" "Logarithms",
   row "Natural Log of Exponential"
      r"ln\(exp\(([a-zA-Z])\)\)"
      r"(\1)"
      10 "Logarithms" "Logarithm undoes the exponential" "Logarithms"]

/-- Identities of sine, cosine and tangent. -/
def trigonometry : List Formula :=
  [row "Pythagorean Identity"
      r"sin\^2\(([a-zA-Z])\)\s*\+\s*cos\^2\(([a-zA-Z])\)"
      r"1"
      9 "Trigonometry" "Pythagorean identity" "Trigonometry",
   row "Pythagorean Identity (powers)"
      r"sin\(([a-zA-Z])\)\^2\s*\+\s*cos\(([a-zA-Z])\)\^2"
      r"1"
      9 "Trigonometry" "Pythagorean identity written with powers" "Trigonometry",
   row "Double Angle Sine"
      r"sin\(2\s*\*\s*([a-zA-Z])\)"
      r"2*sin((\1))*cos((\1))"
      10 "Trigonometry" "Double angle sine" "Trigonometry",
   row "Double Angle Cosine"
      r"cos\(2\s*\*\s*([a-zA-Z])\)"
      r"cos((\1))^2 - sin((\1))^2"
      10 "Trigonometry" "Double angle cosine" "Trigonometry",
   row "Half Angle Sine"
      r"sin\(([a-zA-Z])/2\)"
      r"+-sqrt((1-cos((\1)))/2)"
      10 "Trigonometry" "Half angle sine" "Trigonometry",
   row "Half Angle Cosine"
      r"cos\(([a-zA-Z])/2\)"
      r"+-sqrt((1+cos((\1)))/2)"
      10 "Trigonometry" "Half angle cosine" "Trigonometry",
   row "Sine Sum"
      r"sin\(([a-zA-Z])\s*\+\s*([a-zA-Z])\)"
      r"sin((\1))*cos((\2)) + cos((\1))*sin((\2))"
      10 "Trigonometry" "Sine of sum" "Trigonometry",
   row "Cosine Sum"
      r"cos\(([a-zA-Z])\s*\+\s*([a-zA-Z])\)"
      r"cos((\1))*cos((\2)) - sin((\1))*sin((\2))"
      10 "Trigonometry" "Cosine of sum" "Trigonometry",
   row "Sine Difference"
      r"sin\(([a-zA-Z])\s*-\s*([a-zA-Z])\)"
      r"sin((\1))*cos((\2)) - cos((\1))*sin((\2))"
      10 "Trigonometry" "Sine of difference" "Trigonometry",
   row "Cosine Difference"
      r"cos\(([a-zA-Z])\s*-\s*([a-zA-Z])\)"
      r"cos((\1))*cos((\2)) + sin((\1))*sin((\2))"
      10 "Trigonometry" "Cosine of difference" "Trigonometry",
   row "Tangent Sum"
      r"tan\(([a-zA-Z])\s*\+\s*([a-zA-Z])\)"
      r"(tan((\1)) + tan((\2)))/(1 - tan((\1))*tan((\2)))"
      10 "Trigonometry" "Tangent of sum" "Trigonometry",
   row "Tangent"
      r"tan\(([a-zA-Z])\)"
      r"sin((\1))/cos((\1))"
      10 "Trigonometry" "Tangent function" "Trigonometry",
   row "Product to Sum Sine"
      r"sin\(([a-zA-Z])\)\s*\*\s*sin\(([a-zA-Z])\)"
      r"(cos((\1)-(\2)) - cos((\1)+(\2)))/2"
      10 "Trigonometry" "Product to sum sine" "Trigonometry",
   row "Product to Sum Cosine"
      r"cos\(([a-zA-Z])\)\s*\*\s*cos\(([a-zA-Z])\)"
      r"(cos((\1)-(\2)) + cos((\1)+(\2)))/2"
      10 "Trigonometry" "Product to sum cosine" "Trigonometry"]

/-- Hyperbolic functions by exponentials. -/
def hyperbolic : List Formula :=
  [row "Hyperbolic Sine"
      r"sinh\(([a-zA-Z])\)"
      r"(exp((\1)) - exp(-(\1)))/2"
      10 "Hyperbolic Functions" "Hyperbolic sine" "Hyperbolic Functions",
   row "Hyperbolic Cosine"
      r"cosh\(([a-zA-Z])\)"
      r"(exp((\1)) + exp(-(\1)))/2"
      10 "Hyperbolic Functions" "Hyperbolic cosine" "Hyperbolic Functions",
   row "Hyperbolic Tangent"
      r"tanh\(([a-zA-Z])\)"
      r"sinh((\1))/cosh((\1))"
      10 "Hyperbolic Functions" "Hyperbolic tangent" "Hyperbolic Functions"]

/-- Rules of differentiation and integration. -/
def calculus : List Formula :=
  [row "Power Rule"
      r"d/dx\(([a-zA-Z])\^([a-zA-Z0-9]+)\)"
      r"(\2)*(\1)^((\2)-1)"
      10 "Calculus" "Power rule for derivatives" "Calculus",
   row "Sum Rule"
      r"d/dx\(([a-zA-Z])\s*\+\s*([a-zA-Z])\)"
      r"d/dx((\1)) + d/dx((\2))"
      10 "Calculus" "Derivative of sum" "Calculus",
   row "Quotient Rule"
      r"d/dx\(([a-zA-Z])\s*/\s*([a-zA-Z])\)"
      r"((\2)*d/dx((\1)) - (\1)*d/dx((\2)))/((\2)^2)"
      10 "Calculus" "Quotient rule" "Calculus",
   row "Chain Rule"
      r"d/dx\(sin\(([a-zA-Z])\)\)"
      r"cos((\1))*d/dx((\1))"
      10 "Calculus" "Chain rule for sine" "Calculus",
   row "Chain Rule Cosine"
      r"d/dx\(cos\(([a-zA-Z])\)\)"
      r"-sin((\1))*d/dx((\1))"
      10 "Calculus" "Chain rule for cosine" "Calculus",
   row "Power Rule Integration"
      r"∫([a-zA-Z])\^([a-zA-Z0-9]+)\s*dx"
      r"((\1)^((\2)+1))/((\2)+1) + C"
      10 "Calculus" "Power rule for integration" "Calculus",
   row "Logarithmic Integration"
      r"∫ln\(([a-zA-Z])\)\s*dx"
      r"(\1)*ln((\1)) - (\1) + C"
      10 "Calculus" "Logarithmic integration" "Calculus",
   row "Trigonometric Integration"
      r"∫sin\^2\(([a-zA-Z])\)\s*dx"
      r"(\1)/2 - sin(2*(\1))/4 + C"
      10 "Calculus" "Trigonometric integration" "Calculus"]

/-- Areas, circumferences and volumes. -/
def geometry : List Formula :=
  [row "Triangle Area"
      r"\(([a-zA-Z])\s*\*\s*([a-zA-Z])\)\s*/\s*2"
      r"(base * height)/2"
      7 "Geometry" "Triangle area" "Geometry",
   row "Circle Area"
      r"pi\s*\*\s*([a-zA-Z])\^2"
      r"π * radius^2"
      8 "Geometry" "Circle area" "Geometry",
   row "Circle Circumference"
      r"2\s*\*\s*pi\s*\*\s*([a-zA-Z])"
      r"2 * π * radius"
      8 "Geometry" "Circle circumference" "Geometry",
   row "Rectangle Perimeter"
      r"2\s*\*\s*\(([a-zA-Z])\s*\+\s*([a-zA-Z])\)"
      r"2 * (length + width)"
      6 "Geometry" "Rectangle perimeter" "Geometry",
   row "Cylinder Volume"
      r"pi\s*\*\s*([a-zA-Z])\^2\s*\*\s*([a-zA-Z])"
      r"π * radius^2 * height"
      9 "Geometry" "Cylinder volume" "Geometry",
   row "Distance Formula"
      r"sqrt\(\(([a-zA-Z])\s*-\s*([a-zA-Z])\)\^2\s*\+\s*\(([a-zA-Z])\s*-\s*([a-zA-Z])\)\^2\)"
      r"sqrt((x2-x1)^2 + (y2-y1)^2)"
      9 "Geometry" "Distance formula" "Geometry"]

/-- The formulas that are known from the start. -/
def standard : Catalog :=
  ⟨algebra ++ arithmetic ++ fractions ++ powers ++ roots ++ logarithms ++ trigonometry
    ++ hyperbolic ++ calculus ++ geometry⟩

end Workings.Catalog
