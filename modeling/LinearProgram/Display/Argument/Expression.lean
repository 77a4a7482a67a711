import LinearProgram.Display.Argument.Token

/-!
# Expressions of arguments

An expression, as far as it matters what it means: the values are numbers with a sign, sums of a
number and an imaginary one, strings, the constants, and tuples, sets and dictionaries of values.
All other expressions are told apart only by what they are called when something is assigned to
them by mistake (`Expression.title`).

**Meaning.** `Expression.fault?` says why an expression is no value. The members of a set and the
keys of a dictionary must not be able to change. Parts are looked at from left to right, a member
or a key after what stands in it, and a key after its value.
-/

namespace LinearProgram

namespace Argument

/-- An expression. -/
inductive Expression where
  | number (value : Numeral)
  /-- A number with a sign before it. -/
  | signed (value : Numeral)
  /-- A number and an imaginary one, added or subtracted. -/
  | complex (first : Numeral)
  | string (formatted : Bool)
  /-- One of the words for true, false and nothing. -/
  | constant (letters : Text)
  | ellipsis
  | name (letters : Text)
  | attribute
  | call
  /-- A call of the function for sets without arguments. -/
  | emptySet
  | operation
  /-- A comparison; `membership` says that the first thing compared is looked for in the second. -/
  | comparison (first : Expression) (membership : Bool)
  | conditional
  | binding
  | function
  | yielding
  | awaiting
  | generator
  | setComprehension
  | dictionaryComprehension
  | starred (inner : Expression)
  | tuple (items : List Expression)
  | set (members : List Expression)
  /-- A dictionary; what is unpacked in it is a starred key. -/
  | dictionary (keys values : List Expression)

namespace Expression

/-! ## Meaning -/

mutual

/-- What kind of thing in the value can change. -/
def changeable? : Expression → Option String
  | .emptySet => some "set"
  | .set _ => some "set"
  | .dictionary _ _ => some "dict"
  | .tuple items => changeableIn items
  | _ => none

/-- What kind of thing in a list of values can change. -/
def changeableIn : List Expression → Option String
  | [] => none
  | item :: rest =>
    match changeable? item with
    | some kind => some kind
    | none => changeableIn rest

end

/-- The fault of a value that is to be a member of a set or a key. -/
def memberFault? (e : Expression) : Option Fault := e.changeable?.map .unhashable

/-- The least whole number that is too large for a part of a complex one: the middle between the
largest finite value of a part and the next power of two. -/
def partLimit : Nat := Nat.pow 2 1024 - Nat.pow 2 970

/-- Whether a number is too large for a part of a complex one. -/
def isTooLarge : Numeral → Bool
  | .whole value => partLimit ≤ value
  | _ => false

mutual

/-- Why an expression means no value. -/
def fault? : Expression → Option Fault
  | .number _ => none
  | .signed _ => none
  | .complex first => if isTooLarge first then some .tooLarge else none
  | .string formatted => if formatted then some .notAValue else none
  | .constant _ => none
  | .ellipsis => none
  | .emptySet => none
  | .tuple items => (faultsIn items).findSome? id
  | .set members =>
    ((faultsIn members).zip (members.map memberFault?)).findSome? fun (fault, fixed) =>
      fault.or fixed
  | .dictionary keys values =>
    ((faultsIn keys).zip ((faultsIn values).zip (keys.map memberFault?))).findSome?
      fun (key, value, fixed) => (key.or value).or fixed
  | _ => some .notAValue

/-- Why each of several expressions means no value. -/
def faultsIn : List Expression → List (Option Fault)
  | [] => []
  | item :: rest => fault? item :: faultsIn rest

end

/-! ## Names of kinds -/

/-- What an expression is called. -/
def title : Expression → String
  | .number _ => "literal"
  | .signed _ => "expression"
  | .complex _ => "expression"
  | .string formatted => if formatted then "f-string expression" else "literal"
  | .constant letters => String.ofList letters
  | .ellipsis => "ellipsis"
  | .name _ => "name"
  | .attribute => "attribute"
  | .call => "function call"
  | .emptySet => "function call"
  | .operation => "expression"
  | .comparison _ _ => "comparison"
  | .conditional => "conditional expression"
  | .binding => "named expression"
  | .function => "lambda"
  | .yielding => "yield expression"
  | .awaiting => "await expression"
  | .generator => "generator expression"
  | .setComprehension => "set comprehension"
  | .dictionaryComprehension => "dict comprehension"
  | .starred _ => "starred"
  | .tuple _ => "tuple"
  | .set _ => "set display"
  | .dictionary _ _ => "dict literal"

mutual

/-- The part of an expression to which nothing can be assigned, where the parts of tuples, of what
is starred and of what is looked for in something else are meant one by one. -/
def unassignable? : Expression → Option Expression
  | .tuple items => unassignableIn items
  | .starred inner => unassignable? inner
  | .comparison first membership => if membership then unassignable? first else none
  | .name _ => none
  | .attribute => none
  | e => some e

/-- The first such part in several expressions. -/
def unassignableIn : List Expression → Option Expression
  | [] => none
  | item :: rest =>
    match unassignable? item with
    | some part => some part
    | none => unassignableIn rest

end

/-- The word that is the name of a function which is easily written without parentheses. -/
def bareFunction? : Expression → Option Text
  | .name letters =>
    if ["print", "exec"].contains (String.ofList letters) then some letters else none
  | _ => none

/-! ## Building expressions -/

/-- The number that is not imaginary, perhaps with a sign, of which an expression consists. -/
def real? : Expression → Option Numeral
  | .number .imaginary => none
  | .number value => some value
  | .signed .imaginary => none
  | .signed value => some value
  | _ => none

/-- An expression with a sign before it. -/
def withSign (sign : Text) : Expression → Expression
  | .number value => if sign = ['~'] then .operation else .signed value
  | _ => .operation

/-- Two expressions with an operator between them. -/
def combine (first : Expression) (symbol : Text) (second : Expression) : Expression :=
  match first.real?, second with
  | some value, .number .imaginary =>
    if symbol = ['+'] || symbol = ['-'] then .complex value else .operation
  | _, _ => .operation

/-- A call of a function, with arguments or without them. -/
def called (e : Expression) (withArguments : Bool) : Expression :=
  match e with
  | .name letters =>
    if !withArguments && letters = "set".toList then .emptySet else .call
  | _ => .call

end Expression

end Argument

end LinearProgram
