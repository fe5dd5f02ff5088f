import TabletopDice.Dice.Term
import TabletopDice.Text.Quoted

/-!
Why a notation is refused. Each cause carries what its message shows. A message shows numbers,
and a number may be too long to be written; then the limit on numerals is the reason instead.
-/

set_option autoImplicit false

namespace TabletopDice

inductive FilterKind where
  | keep
  | drop
deriving DecidableEq, Repr

def FilterKind.verb : FilterKind → String
  | .keep => "keep"
  | .drop => "drop"

def FilterKind.filter : FilterKind → Pick → Filter
  | .keep, pick => .keep pick
  | .drop, pick => .drop pick

inductive NotationFault where
  | empty
  | noDice (text : List Char)
  | unrecognized (piece : List Char)
  | diceCount (count : Int)
  | tooManyDice (count limit : Int)
  | dieSize (size : Int)
  | dieTooLarge (size limit : Int)
  | combinationTooLarge (count size limit : Int)
  | filterCount (kind : FilterKind) (count : Int)
  | filterExceedsDice (kind : FilterKind) (count dice : Int)
  | rerollFace (face least greatest : Int)
  | successThreshold (threshold least greatest : Int)
deriving DecidableEq, Repr

namespace NotationFault

def usage : String :=
  "Invalid dice notation. Use formats like: 1d20, 2d6+3, 4d6kh3, 2d20kl1, 3d6!, 5d10>7"

private def notPositive (what : String) (value : Int) : Except Text.DigitLimit String := do
  let value ← Text.writeInt value
  return s!"Invalid {what}: {value}. Must be positive."

private def aboveCeiling (what : String) (value limit : Int) :
    Except Text.DigitLimit String := do
  let value ← Text.writeInt value
  let limit ← Text.writeInt limit
  return s!"{what} too large: {value} (max {limit})"

private def notAFace (what : String) (value least greatest : Int) :
    Except Text.DigitLimit String := do
  let value ← Text.writeInt value
  let least ← Text.writeInt least
  let greatest ← Text.writeInt greatest
  return s!"Invalid {what}: {value}. Must be between {least} and {greatest}."

def message : NotationFault → Except Text.DigitLimit String
  | empty => .ok "Dice notation cannot be empty"
  | noDice text => .ok s!"{usage} (got {Text.quoted text})"
  | unrecognized piece =>
      .ok s!"Invalid notation part: {Text.quoted piece}. Expected dice notation or number."
  | diceCount count => notPositive "dice count" count
  | tooManyDice count limit => do
      let count ← Text.writeInt count
      let limit ← Text.writeInt limit
      return s!"Too many dice: {count} (max {limit})"
  | dieSize size => notPositive "die size" size
  | dieTooLarge size limit => aboveCeiling "Die size" size limit
  | combinationTooLarge count size limit => do
      let product ← Text.writeInt (count * size)
      let count ← Text.writeInt count
      let size ← Text.writeInt size
      let limit ← Text.writeInt limit
      return s!"Dice combination too large: {count}d{size} ({product} exceeds {limit})"
  | filterCount kind count => notPositive s!"{kind.verb} count" count
  | filterExceedsDice kind count dice => do
      let count ← Text.writeInt count
      let dice ← Text.writeInt dice
      return s!"Cannot {kind.verb} {count} dice from only {dice} dice"
  | rerollFace face least greatest => notAFace "reroll value" face least greatest
  | successThreshold threshold least greatest =>
      notAFace "success threshold" threshold least greatest

/-- The numbers that the message shows. -/
def numbers : NotationFault → List Int
  | empty | noDice _ | unrecognized _ => []
  | diceCount count => [count]
  | tooManyDice count limit => [count, limit]
  | dieSize size => [size]
  | dieTooLarge size limit => [size, limit]
  | combinationTooLarge count size limit => [count * size, count, size, limit]
  | filterCount _ count => [count]
  | filterExceedsDice _ count dice => [count, dice]
  | rerollFace face least greatest => [face, least, greatest]
  | successThreshold threshold least greatest => [threshold, least, greatest]

theorem exists_message {fault : NotationFault}
    (writable : ∀ number ∈ fault.numbers, number.natAbs < Text.writeBound) :
    ∃ text, fault.message = .ok text := by
  have written : ∀ number ∈ fault.numbers, Text.writeInt number = .ok number.repr :=
    fun number shown => Text.writeInt_eq_ok_iff.mpr ⟨writable number shown, rfl⟩
  cases fault <;>
    simp_all [message, notPositive, aboveCeiling, notAFace, numbers, bind, Except.bind, pure,
      Except.pure]

end NotationFault

/-- Why no expression was read: a fault in the notation, a numeral beyond the limit, or a term
whose parts do not fit together. -/
inductive ParseFault where
  | refused (fault : NotationFault)
  | numeral (limit : Text.DigitLimit)
  | term (fault : TermFault)
deriving DecidableEq, Repr

/-- Refuses the notation for the given cause, provided that the message can be written. -/
def NotationFault.refuse {α : Type} (fault : NotationFault) : Except ParseFault α :=
  match fault.message with
  | .ok _ => .error (.refused fault)
  | .error limit => .error (.numeral limit)

/-- The text of the fault. Faults that `refuse` raised always have one. -/
def ParseFault.message : ParseFault → Except Text.DigitLimit String
  | refused fault => fault.message
  | numeral limit => .ok limit.message
  | term fault => .ok fault.message

end TabletopDice
