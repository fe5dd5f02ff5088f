import TabletopDice.Notation.Reader
import TabletopDice.Proofs.Sequencing

/-!
The term that a token denotes. `TermToken.parts` gives its parts, `TermToken.Fits` says which
numbers the ceilings and the die allow, and `TermToken.groups` lists the runs of digits, which must
not be too long. A term is built exactly when all of this is in order, and then of these parts.
-/

set_option autoImplicit false

namespace TabletopDice

def Readable (run : List Char) : Prop :=
  run.length ≤ Text.maxDigits

namespace SizeToken

def number : SizeToken → Int
  | .digits run => Text.digitsValue run
  | .percent => 100
  | .fudge => 3

def isFudge : SizeToken → Bool
  | .fudge => true
  | _ => false

def leastFace (size : SizeToken) : Int :=
  if size.isFudge then -1 else 1

def greatestFace (size : SizeToken) : Int :=
  if size.isFudge then 1 else size.number

def groups : SizeToken → List (List Char)
  | .digits run => [run]
  | _ => []

def kind (size : SizeToken) : Die :=
  if size.isFudge then .fudge else .sided size.number

end SizeToken

def Filter.kept? : Option Filter → Option Pick
  | some (.keep pick) => some pick
  | _ => none

def Filter.dropped? : Option Filter → Option Pick
  | some (.drop pick) => some pick
  | _ => none

def FilterToken.pick (filter : FilterToken) : Pick :=
  ⟨filter.side, Text.digitsValue filter.digits⟩

namespace TermToken

/-- The number of dice; one, if the token names none. -/
def number (token : TermToken) : Int :=
  match token.count with
  | none => 1
  | some run => Text.digitsValue run

def groups (token : TermToken) : List (List Char) :=
  token.count.toList ++ token.size.groups ++ (token.filter.map (·.digits)).toList ++
    token.reroll.toList ++ token.success.toList

def HasFace (token : TermToken) (run : List Char) : Prop :=
  token.size.leastFace ≤ Text.digitsValue run ∧ Text.digitsValue run ≤ token.size.greatestFace

/-- The numbers of a token respect the ceilings and each other. -/
structure Fits (ceilings : Ceilings) (token : TermToken) : Prop where
  count_pos : 1 ≤ token.number
  count_le : token.number ≤ ceilings.maxDice
  size_pos : 1 ≤ token.size.number
  size_le : token.size.number ≤ ceilings.maxDieSize
  combination_le : token.number * token.size.number ≤ ceilings.maxCombination
  filter : ∀ filter ∈ token.filter, 1 ≤ filter.pick.count ∧ filter.pick.count < token.number
  reroll : ∀ run ∈ token.reroll, token.HasFace run
  success : ∀ run ∈ token.success, token.HasFace run

def pickOf (kind : FilterKind) (token : TermToken) : Option Pick :=
  match token.filter with
  | some filter => if filter.kind = kind then some filter.pick else none
  | none => none

/-- The parts of the term that a token denotes behind an operator of the given sign. -/
def parts (sign : Sign) (token : TermToken) : Draft where
  count := sign.apply token.number
  size := token.size.number
  fudge := token.size.isFudge
  keep := token.pickOf .keep
  drop := token.pickOf .drop
  reroll := token.reroll.map fun run => {(Text.digitsValue run : Int)}
  explode := token.explode
  success := token.success.map fun run => (Text.digitsValue run : Int)

end TermToken

open Sequencing

theorem exists_require_eq_ok_iff {condition : Prop} [Decidable condition] {fault : NotationFault}
    {later : Unit → Prop} :
    (∃ done, require condition fault = .ok done ∧ later done) ↔ condition ∧ later () := by
  constructor
  · intro passed
    obtain ⟨⟨⟩, held, rest⟩ := passed
    exact ⟨require_eq_ok_iff.mp held, rest⟩
  · intro both
    obtain ⟨held, rest⟩ := both
    exact ⟨(), require_eq_ok_iff.mpr held, rest⟩

theorem readNumber_eq_ok_iff {run : List Char} {number : Int} :
    readNumber run = .ok number ↔ Readable run ∧ number = Text.digitsValue run := by
  have digits : readNumber run = .ok number ↔
      ∃ value : Nat, Text.readDigits run = .ok value ∧ value = number := by
    unfold readNumber
    cases Text.readDigits run <;> simp
  rw [digits]
  constructor
  · intro found
    obtain ⟨value, read, rfl⟩ := found
    obtain ⟨short, rfl⟩ := Text.readDigits_eq_ok_iff.mp read
    exact ⟨short, rfl⟩
  · intro known
    obtain ⟨short, rfl⟩ := known
    exact ⟨_, Text.readDigits_eq_ok_iff.mpr ⟨short, rfl⟩, rfl⟩

theorem SizeToken.size_kind (size : SizeToken) : size.kind.size = size.number := by
  cases size <;> rfl

theorem SizeToken.minFace_kind (size : SizeToken) : size.kind.minFace = size.leastFace := by
  cases size <;> rfl

theorem SizeToken.maxFace_kind (size : SizeToken) : size.kind.maxFace = size.greatestFace := by
  cases size <;> rfl

theorem SizeToken.kind_eq_fudge (size : SizeToken) : (size.kind == .fudge) = size.isFudge := by
  cases size <;> rfl

theorem SizeToken.die_eq_ok_iff {size : SizeToken} {die : Die} :
    size.die = .ok die ↔ (∀ run ∈ size.groups, Readable run) ∧ die = size.kind := by
  cases size with
  | digits run =>
      simp only [SizeToken.die, bind_eq_ok_iff, readNumber_eq_ok_iff, pure_eq_ok_iff,
        SizeToken.groups, List.mem_singleton, forall_eq]
      constructor
      · intro read
        obtain ⟨number, ⟨readable, rfl⟩, rfl⟩ := read
        exact ⟨readable, rfl⟩
      · intro known
        obtain ⟨readable, rfl⟩ := known
        exact ⟨_, ⟨readable, rfl⟩, rfl⟩
  | percent => simp [SizeToken.die, SizeToken.groups, SizeToken.kind, SizeToken.isFudge,
      SizeToken.number, Die.percentileSize, eq_comm]
  | fudge => simp [SizeToken.die, SizeToken.groups, SizeToken.kind, SizeToken.isFudge, eq_comm]

namespace TermToken

theorem diceCount_eq_ok_iff {token : TermToken} {count : Int} :
    token.diceCount = .ok count ↔ (∀ run ∈ token.count, Readable run) ∧ count = token.number := by
  unfold diceCount number
  cases token.count with
  | none => simp [eq_comm]
  | some run => simp [readNumber_eq_ok_iff]

theorem readFilter_eq_ok_iff {dice : Int} {token : FilterToken} {filter : Filter} :
    readFilter dice token = .ok filter ↔
      (Readable token.digits ∧ 1 ≤ token.pick.count ∧ token.pick.count < dice) ∧
        filter = token.kind.filter token.pick := by
  simp only [readFilter, bind_eq_ok_iff, readNumber_eq_ok_iff, exists_require_eq_ok_iff,
    pure_eq_ok_iff, FilterToken.pick]
  constructor
  · intro read
    obtain ⟨count, ⟨readable, rfl⟩, positive, less, rfl⟩ := read
    exact ⟨⟨readable, positive, less⟩, rfl⟩
  · intro known
    obtain ⟨⟨readable, positive, less⟩, rfl⟩ := known
    exact ⟨_, ⟨readable, rfl⟩, positive, less, rfl⟩

theorem readFace_eq_ok_iff {die : Die} {fault : Int → Int → Int → NotationFault}
    {run : List Char} {face : Int} :
    readFace die fault run = .ok face ↔
      (Readable run ∧ die.minFace ≤ Text.digitsValue run ∧ Text.digitsValue run ≤ die.maxFace) ∧
        face = Text.digitsValue run := by
  simp only [readFace, bind_eq_ok_iff, readNumber_eq_ok_iff, exists_require_eq_ok_iff,
    pure_eq_ok_iff]
  constructor
  · intro read
    obtain ⟨value, ⟨readable, rfl⟩, bounds, rfl⟩ := read
    exact ⟨⟨readable, bounds⟩, rfl⟩
  · intro known
    obtain ⟨⟨readable, bounds⟩, rfl⟩ := known
    exact ⟨_, ⟨readable, rfl⟩, bounds, rfl⟩

theorem mapM_readFilter_eq_ok_iff {dice : Int} {token? : Option FilterToken}
    {filter? : Option Filter} :
    token?.mapM (readFilter dice) = .ok filter? ↔
      (∀ token ∈ token?,
        Readable token.digits ∧ 1 ≤ token.pick.count ∧ token.pick.count < dice) ∧
      filter? = token?.map fun token => token.kind.filter token.pick :=
  option_mapM_eq_ok_iff fun _ _ => readFilter_eq_ok_iff

theorem mapM_readFace_eq_ok_iff {die : Die} {fault : Int → Int → Int → NotationFault}
    {run? : Option (List Char)} {face? : Option Int} :
    run?.mapM (readFace die fault) = .ok face? ↔
      (∀ run ∈ run?, Readable run ∧
        die.minFace ≤ Text.digitsValue run ∧ Text.digitsValue run ≤ die.maxFace) ∧
      face? = run?.map fun run => (Text.digitsValue run : Int) :=
  option_mapM_eq_ok_iff fun _ _ => readFace_eq_ok_iff

theorem forall_groups_iff {token : TermToken} {property : List Char → Prop} :
    (∀ run ∈ token.groups, property run) ↔
      (∀ run ∈ token.count, property run) ∧ (∀ run ∈ token.size.groups, property run) ∧
      (∀ filter ∈ token.filter, property filter.digits) ∧
      (∀ run ∈ token.reroll, property run) ∧ ∀ run ∈ token.success, property run := by
  simp only [groups, List.mem_append, Option.mem_toList, Option.mem_def,
    Option.map_eq_some_iff]
  constructor
  · intro all
    refine ⟨fun run member => ?_, fun run member => ?_, fun filter member => ?_,
      fun run member => ?_, fun run member => ?_⟩ <;> apply all <;> simp_all
  · intro all run inside
    obtain ⟨count, size, filter, reroll, success⟩ := all
    obtain (((member | member) | ⟨present, member, rfl⟩) | member) | member := inside
    · exact count run member
    · exact size run member
    · exact filter present member
    · exact reroll run member
    · exact success run member

theorem kept?_filter (token : TermToken) :
    Filter.kept? (token.filter.map fun filter => filter.kind.filter filter.pick) =
      token.pickOf .keep := by
  unfold pickOf
  cases token.filter with
  | none => rfl
  | some filter => cases kind : filter.kind <;> simp [kind, FilterKind.filter, Filter.kept?]

theorem dropped?_filter (token : TermToken) :
    Filter.dropped? (token.filter.map fun filter => filter.kind.filter filter.pick) =
      token.pickOf .drop := by
  unfold pickOf
  cases token.filter with
  | none => rfl
  | some filter => cases kind : filter.kind <;> simp [kind, FilterKind.filter, Filter.dropped?]

theorem draft_eq_ok_iff {ceilings : Ceilings} {sign : Sign} {token : TermToken} {draft : Draft} :
    token.draft ceilings sign = .ok draft ↔
      ((∀ run ∈ token.groups, Readable run) ∧ token.Fits ceilings) ∧
        draft = token.parts sign := by
  simp only [TermToken.draft, bind_eq_ok_iff, diceCount_eq_ok_iff, SizeToken.die_eq_ok_iff,
    exists_require_eq_ok_iff, mapM_readFilter_eq_ok_iff, mapM_readFace_eq_ok_iff, pure_eq_ok_iff,
    forall_groups_iff]
  constructor
  · intro read
    obtain ⟨count, ⟨countReadable, rfl⟩, die, ⟨sizeReadable, rfl⟩, rest⟩ := read
    obtain ⟨countPos, countLe, sizePos, sizeLe, combinationLe, rest⟩ := rest
    obtain ⟨filter, ⟨filterOk, rfl⟩, reroll, ⟨rerollOk, rfl⟩, rest⟩ := rest
    obtain ⟨success, ⟨successOk, rfl⟩, rfl⟩ := rest
    simp only [SizeToken.size_kind, SizeToken.minFace_kind, SizeToken.maxFace_kind] at *
    refine ⟨⟨⟨countReadable, sizeReadable, fun _ member => (filterOk _ member).1,
      fun _ member => (rerollOk _ member).1, fun _ member => (successOk _ member).1⟩, ?_⟩, ?_⟩
    · exact ⟨countPos, countLe, sizePos, sizeLe, combinationLe,
        fun _ member => (filterOk _ member).2, fun _ member => (rerollOk _ member).2,
        fun _ member => (successOk _ member).2⟩
    · simp only [parts, SizeToken.kind_eq_fudge, ← kept?_filter, ← dropped?_filter,
        Option.map_map]
      rfl
  · intro known
    obtain ⟨⟨readable, fits⟩, rfl⟩ := known
    obtain ⟨countReadable, sizeReadable, filterReadable, rerollReadable, successReadable⟩ :=
      readable
    refine ⟨_, ⟨countReadable, rfl⟩, _, ⟨sizeReadable, rfl⟩, ?_⟩
    simp only [SizeToken.size_kind, SizeToken.minFace_kind, SizeToken.maxFace_kind]
    refine ⟨fits.count_pos, fits.count_le, fits.size_pos, fits.size_le, fits.combination_le,
      _, ⟨fun _ member => ⟨filterReadable _ member, fits.filter _ member⟩, rfl⟩,
      _, ⟨fun _ member => ⟨rerollReadable _ member, fits.reroll _ member⟩, rfl⟩,
      _, ⟨fun _ member => ⟨successReadable _ member, fits.success _ member⟩, rfl⟩, ?_⟩
    simp only [parts, SizeToken.kind_eq_fudge, ← kept?_filter, ← dropped?_filter,
      Option.map_map]
    rfl

end TermToken

/-! ## Putting the parts together -/

theorem Draft.picks_of_filter {draft : Draft} {filter : Option Filter}
    (filtered : draft.filter = .ok filter) :
    Filter.kept? filter = draft.keep ∧ Filter.dropped? filter = draft.drop := by
  unfold Draft.filter at filtered
  split at filtered <;> cases filtered <;> simp_all [Filter.kept?, Filter.dropped?]

theorem Term.draft_eq (term : Term) :
    term.draft = {
      count := term.count
      size := term.die.size
      fudge := term.die == .fudge
      keep := Filter.kept? term.filter
      drop := Filter.dropped? term.filter
      reroll := term.reroll
      explode := term.explode
      success := term.success } := rfl

theorem Draft.check_eq_ok_iff {draft : Draft} {term : Term} :
    draft.check = .ok term ↔ term.draft = draft := by
  constructor
  · intro checked
    unfold Draft.check at checked
    split at checked
    · cases checked
    · split at checked
      · cases checked
      · split at checked
        · cases checked
        · rename_i sizeFits
          split at checked
          · cases checked
          · rename_i filter filtered
            split at checked
            · cases checked
              obtain ⟨keep, drop⟩ := Draft.picks_of_filter filtered
              have size : (if draft.fudge then Die.fudge else .sided draft.size).size =
                  draft.size := by
                cases fudge : draft.fudge
                · rfl
                · have fits : draft.size = Die.fudgeSize := by simpa [fudge] using sizeFits
                  exact fits.symm
              have kind : ((if draft.fudge then Die.fudge else .sided draft.size) == .fudge) =
                  draft.fudge := by
                cases draft.fudge <;> rfl
              simp only [Term.draft_eq, size, kind, keep, drop]
            · cases checked
  · intro same
    rw [← same]
    exact term.check_draft

theorem Draft.exists_check_eq_ok {draft : Draft} (countNonzero : draft.count ≠ 0)
    (sizePos : 0 < draft.size) (fudgeSize : draft.fudge = true → draft.size = Die.fudgeSize)
    (oneFilter : draft.keep = none ∨ draft.drop = none)
    (keepFits : ∀ pick ∈ draft.keep, (Filter.keep pick).Fits draft.count.natAbs)
    (dropFits : ∀ pick ∈ draft.drop, (Filter.drop pick).Fits draft.count.natAbs) :
    ∃ term, draft.check = .ok term := by
  have filtered : ∃ filter, draft.filter = .ok filter ∧
      ∀ present ∈ filter, present.Fits draft.count.natAbs := by
    unfold Draft.filter
    cases keep : draft.keep with
    | none =>
        cases drop : draft.drop with
        | none => exact ⟨none, rfl, by simp⟩
        | some pick => exact ⟨some (.drop pick), rfl, by simpa using dropFits pick drop⟩
    | some pick =>
        have drop : draft.drop = none := oneFilter.resolve_left (by simp [keep])
        exact ⟨some (.keep pick), by simp [drop], by simpa using keepFits pick keep⟩
  obtain ⟨filter, found, fits⟩ := filtered
  have sizeFits : ¬ (draft.fudge && draft.size != Die.fudgeSize) = true := by
    simpa using fudgeSize
  unfold Draft.check
  rw [dif_neg countNonzero, dif_neg (Int.not_le.mpr sizePos), if_neg sizeFits]
  split
  · rename_i fault refused
    rw [found] at refused
    cases refused
  · rename_i present same
    rw [found] at same
    cases same
    exact ⟨_, dif_pos fits⟩

theorem Sign.natAbs_apply (sign : Sign) (value : Int) :
    (sign.apply value).natAbs = value.natAbs := by
  cases sign
  · rfl
  · exact Int.natAbs_neg value

namespace TermToken

theorem pickOf_eq_some_iff {kind : FilterKind} {token : TermToken} {pick : Pick} :
    token.pickOf kind = some pick ↔
      ∃ filter, token.filter = some filter ∧ filter.kind = kind ∧ filter.pick = pick := by
  unfold pickOf
  cases token.filter <;> simp

theorem exists_check_parts {ceilings : Ceilings} {token : TermToken} (sign : Sign)
    (fits : token.Fits ceilings) : ∃ term, (token.parts sign).check = .ok term := by
  have magnitude : ((sign.apply token.number).natAbs : Int) = token.number := by
    have positive := fits.count_pos
    rw [Sign.natAbs_apply]
    omega
  have pickFits : ∀ kind, ∀ pick ∈ token.pickOf kind,
      0 < pick.count ∧ pick.count < ((sign.apply token.number).natAbs : Int) := by
    intro kind pick found
    obtain ⟨filter, present, -, rfl⟩ := pickOf_eq_some_iff.mp found
    rw [magnitude]
    exact fits.filter filter present
  apply Draft.exists_check_eq_ok
  · intro zero
    have positive := fits.count_pos
    have noDice : sign.apply token.number = 0 := zero
    rw [noDice] at magnitude
    omega
  · exact fits.size_pos
  · intro fudge
    simp only [parts] at fudge ⊢
    cases size : token.size <;> simp_all [SizeToken.isFudge, SizeToken.number, Die.fudgeSize]
  · unfold parts pickOf
    cases token.filter with
    | none => exact .inl rfl
    | some filter => cases kind : filter.kind <;> simp [kind]
  · exact fun pick found => pickFits .keep pick found
  · exact fun pick found => pickFits .drop pick found

/-- A token denotes a term exactly when its numbers are readable and fit, and then the one of its
parts. The rules of terms refuse nothing that got so far. -/
theorem term_eq_ok_iff {ceilings : Ceilings} {sign : Sign} {token : TermToken} {term : Term} :
    token.term ceilings sign = .ok term ↔
      ((∀ run ∈ token.groups, Readable run) ∧ token.Fits ceilings) ∧
        term.draft = token.parts sign := by
  simp only [TermToken.term, bind_eq_ok_iff, draft_eq_ok_iff]
  constructor
  · intro made
    obtain ⟨draft, ⟨accepted, rfl⟩, checked⟩ := made
    refine ⟨accepted, ?_⟩
    cases outcome : (token.parts sign).check with
    | error fault => simp [outcome, throw, throwThe, MonadExceptOf.throw] at checked
    | ok found =>
        rw [outcome] at checked
        cases checked
        exact Draft.check_eq_ok_iff.mp outcome
  · intro known
    obtain ⟨accepted, same⟩ := known
    refine ⟨_, ⟨accepted, rfl⟩, ?_⟩
    rw [Draft.check_eq_ok_iff.mpr same]
    rfl

end TermToken

end TabletopDice
