/-!
References in the texts of assignments. `${name}` stands for the text that belongs to a name, and
`${name:-default}` for the default if no text does. What a reference stands for is not searched for
further references.
-/

set_option autoImplicit false

namespace TabletopDice

/-- A name with the text that stands in where none belongs to it. -/
structure Reference where
  name : String
  default : List Char := []

namespace Reference

def inName (c : Char) : Bool :=
  c != ':' && c != '}'

def inDefault (c : Char) : Bool :=
  c != '}'

def take (text : List Char) : Option (Reference × List Char) :=
  let name := String.ofList (text.takeWhile inName)
  match text.dropWhile inName with
  | '}' :: rest => some ({ name }, rest)
  | ':' :: '-' :: default =>
      match default.dropWhile inDefault with
      | _ :: rest => some ({ name, default := default.takeWhile inDefault }, rest)
      | [] => none
  | _ => none

theorem length_dropWhile_le (inClass : Char → Bool) (text : List Char) :
    (text.dropWhile inClass).length ≤ text.length :=
  (List.dropWhile_sublist inClass).length_le

theorem length_lt_of_take {text rest : List Char} {reference : Reference}
    (taken : take text = some (reference, rest)) : rest.length < text.length := by
  have nameBound := length_dropWhile_le inName text
  unfold take at taken
  split at taken
  · rename_i closed
    simp only [Option.some.injEq, Prod.mk.injEq] at taken
    simp only [closed, List.length_cons, taken.2] at nameBound
    omega
  · rename_i default opened
    have defaultBound := length_dropWhile_le inDefault default
    split at taken
    · rename_i closed
      simp only [Option.some.injEq, Prod.mk.injEq] at taken
      simp only [opened, List.length_cons] at nameBound
      simp only [closed, List.length_cons, taken.2] at defaultBound
      omega
    · simp at taken
  · simp at taken

def text (textOf : String → Option String) (reference : Reference) : List Char :=
  match textOf reference.name with
  | some found => found.toList
  | none => reference.default

/-- The text with every reference in it replaced by what it stands for. -/
def resolve (textOf : String → Option String) : List Char → List Char
  | [] => []
  | '$' :: '{' :: rest =>
      match taken : take rest with
      | some (reference, after) =>
          have := length_lt_of_take taken
          reference.text textOf ++ resolve textOf after
      | none => '$' :: resolve textOf ('{' :: rest)
  | c :: rest => c :: resolve textOf rest
termination_by text => text.length

end Reference

end TabletopDice
