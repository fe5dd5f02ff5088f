import TabletopDice.Proofs.Roll.BetterDraws
import TabletopDice.Proofs.Roll.TotalBounds
import TabletopDice.Roll.Critical

/-!
Critical draws. Where the dice with twenty sides all belong to one term and are thrown once, whether
a roll is critical depends on the draws for them and on the filter, and on nothing else. A filter
that leaves one die leaves one with the highest draw or one with the lowest.
-/

set_option autoImplicit false

namespace TabletopDice

open Sequencing

/-! ## Draws for dice of one size -/

def Call.answerFor (size : Int) (call : Call) : Option Int :=
  if call.high = size then call.outcome.toOption else none

/-- The answers to the calls that ask for a face of a die of the size. -/
def drawsFor (size : Int) (calls : List Call) : List Int :=
  calls.filterMap (Call.answerFor size)

theorem drawsFor_append (size : Int) (first second : List Call) :
    drawsFor size (first ++ second) = drawsFor size first ++ drawsFor size second :=
  List.filterMap_append

namespace Term

variable {term : Term} {size : Int}

theorem drawsFor_blockCalls (same : term.size = size) (block : List RolledDie) :
    drawsFor size (term.blockCalls block) = term.blockDraws block := by
  have answered : ∀ draw, Call.answerFor size (.answered 1 term.size draw) = some draw :=
    fun draw => if_pos same
  rw [drawsFor, blockCalls_eq, List.filterMap_map]
  exact (List.filterMap_congr fun draw _ => answered draw).trans List.filterMap_some

theorem drawsFor_blockCalls_of_ne (other : term.size ≠ size) (block : List RolledDie) :
    drawsFor size (term.blockCalls block) = [] := by
  rw [drawsFor, blockCalls_eq, List.filterMap_map]
  exact List.filterMap_eq_nil_iff.mpr fun draw _ => if_neg other

theorem drawsFor_callsOf_eq_nil {terms : List Term} (others : ∀ term ∈ terms, term.size ≠ size)
    (blocks : List (List RolledDie)) : drawsFor size (callsOf terms blocks) = [] := by
  induction terms generalizing blocks with
  | nil => rfl
  | cons term terms ih =>
      obtain ⟨here, later⟩ := List.forall_mem_cons.mp others
      cases blocks with
      | nil => rfl
      | cons block blocks =>
          rw [callsOf, List.zipWith_cons_cons, List.flatten_cons, drawsFor_append,
            drawsFor_blockCalls_of_ne here block]
          exact ih later blocks

end Term

/-! ## The die that counts -/

namespace Critical

theorem ofFace_eq_success_iff {face : Int} : ofFace face = some success ↔ face = dieSize := by
  unfold ofFace
  by_cases greatest : face = success.naturalRoll
  · rw [if_pos greatest]
    exact iff_of_true rfl greatest
  · rw [if_neg greatest]
    exact iff_of_false (by split <;> nofun) greatest

theorem ofFace_eq_fail_iff {face : Int} : ofFace face = some fail ↔ face = 1 := by
  unfold ofFace
  by_cases least : face = 1
  · subst least
    decide
  · refine iff_of_false ?_ least
    rw [if_neg (show face ≠ fail.naturalRoll from least)]
    split <;> nofun

/-- The critical outcome of the faces of the dice that count. -/
def ofFaces : List Int → Option Critical
  | [face] => ofFace face
  | _ => none

theorem ofFaces_of_two_le {faces : List Int} (several : 2 ≤ faces.length) :
    ofFaces faces = none := by
  rcases faces with _ | ⟨face, _ | ⟨other, faces⟩⟩
  · simp at several
  · simp at several
  · rfl

theorem ofFaces_perm {first second : List Int} (same : first.Perm second) :
    ofFaces first = ofFaces second := by
  rcases Nat.lt_or_ge first.length 2 with few | several
  · rcases first with _ | ⟨face, _ | ⟨other, first⟩⟩
    · rw [same.nil_eq]
    · rw [List.singleton_perm.mp same]
    · rw [List.length_cons, List.length_cons] at few
      omega
  · rw [ofFaces_of_two_le several, ofFaces_of_two_le (same.length_eq ▸ several)]

theorem detect_eq_ofFaces {dice : List RolledDie} (sized : ∀ die ∈ dice, die.size = dieSize) :
    detect dice = ofFaces ((Selection.kept dice).map RolledDie.result) := by
  have counted : (dice.filter fun die => die.size == dieSize && !die.dropped) =
      Selection.kept dice :=
    List.filter_congr fun die member => by simp [sized die member]
  unfold detect
  rw [counted]
  rcases Selection.kept dice with _ | ⟨die, _ | ⟨other, rest⟩⟩ <;> rfl

/-- Dice of other sizes do not matter. -/
theorem detect_around {front dice back : List RolledDie}
    (before : ∀ die ∈ front, die.size ≠ dieSize) (after : ∀ die ∈ back, die.size ≠ dieSize) :
    detect (front ++ (dice ++ back)) = detect dice := by
  have none : ∀ {others : List RolledDie}, (∀ die ∈ others, die.size ≠ dieSize) →
      (others.filter fun die => die.size == dieSize && !die.dropped) = [] := by
    intro others sized
    refine List.filter_eq_nil_iff.mpr fun die member => ?_
    simp [sized die member]
  unfold detect
  rw [List.filter_append, List.filter_append, none before, none after, List.nil_append,
    List.append_nil]

end Critical

/-! ## The end of a ranking -/

section Ranking

variable {ranked : List Int}

theorem exists_take_one (ordered : ranked.Pairwise fun value later => later ≤ value)
    (some : ranked ≠ []) :
    ∃ best ∈ ranked, ranked.take 1 = [best] ∧ ∀ value ∈ ranked, value ≤ best := by
  obtain ⟨best, rest, rfl⟩ := List.exists_cons_of_ne_nil some
  refine ⟨best, List.mem_cons_self, rfl, List.forall_mem_cons.mpr ⟨Int.le_refl best, ?_⟩⟩
  exact (List.pairwise_cons.mp ordered).1

theorem exists_drop_last (ordered : ranked.Pairwise fun value later => later ≤ value)
    (some : ranked ≠ []) :
    ∃ worst ∈ ranked, ranked.drop (ranked.length - 1) = [worst] ∧
      ∀ value ∈ ranked, worst ≤ value := by
  refine ⟨ranked.getLast some, List.getLast_mem some, List.drop_length_sub_one some, ?_⟩
  rw [← List.dropLast_concat_getLast some] at ordered
  intro value member
  rw [← List.dropLast_concat_getLast some] at member
  rcases List.mem_append.mp member with earlier | last
  · exact (List.pairwise_append.mp ordered).2.2 value earlier _ List.mem_cons_self
  · rw [List.mem_singleton.mp last]

end Ranking

/-! ## Terms of which one die counts -/

/-- One die of the term counts, and it is one with the highest face. -/
def Term.CountsBest (term : Term) : Prop :=
  (term.filter = none ∧ term.magnitude = 1) ∨ term.filter = some (.keep ⟨.highest, 1⟩) ∨
    term.filter = some (.drop ⟨.lowest, term.magnitude - 1⟩)

/-- One die of the term counts, and it is one with the lowest face. -/
def Term.CountsWorst (term : Term) : Prop :=
  term.filter = some (.keep ⟨.lowest, 1⟩) ∨
    term.filter = some (.drop ⟨.highest, term.magnitude - 1⟩)

namespace Term

variable {term : Term} {ranked : List Int}

theorem counts_cases (term : Term) :
    2 ≤ term.leaves term.magnitude ∨ term.CountsBest ∨ term.CountsWorst := by
  have positive := term.magnitude_pos
  unfold leaves CountsBest CountsWorst
  rcases present : term.filter with _ | ⟨⟨side, count⟩⟩ | ⟨⟨side, count⟩⟩
  · have several : 2 ≤ term.magnitude ∨ term.magnitude = 1 := by omega
    exact several.imp_right fun one => .inl (.inl ⟨rfl, one⟩)
  · obtain ⟨least, -⟩ : 0 < count ∧ count < term.magnitude := term.filter_fits _ present
    have several : 2 ≤ count.toNat ∨ count = 1 := by omega
    refine several.imp_right fun one => ?_
    subst one
    cases side with
    | highest => exact .inl (.inr (.inl rfl))
    | lowest => exact .inr (.inl rfl)
  · obtain ⟨least, less⟩ : 0 < count ∧ count < term.magnitude := term.filter_fits _ present
    have several : 2 ≤ term.magnitude - count.toNat ∨ count = term.magnitude - 1 := by omega
    refine several.imp_right fun rest => ?_
    subst rest
    cases side with
    | highest => exact .inr (.inr rfl)
    | lowest => exact .inl (.inr (.inr rfl))

theorem length_keptOf (length : ranked.length = term.magnitude) :
    (Filter.keptOf term.filter ranked).length = term.leaves term.magnitude := by
  unfold leaves
  rcases present : term.filter with _ | ⟨⟨side, count⟩⟩ | ⟨⟨side, count⟩⟩
  · exact length
  · obtain ⟨-, less⟩ : 0 < count ∧ count < term.magnitude := term.filter_fits _ present
    cases side <;>
      simp only [Filter.keptOf, Pick.taken, Filter.leaves, Option.elim, List.length_take,
        List.length_drop] <;> omega
  · obtain ⟨-, less⟩ : 0 < count ∧ count < term.magnitude := term.filter_fits _ present
    cases side <;>
      simp only [Filter.keptOf, Pick.left, Filter.leaves, Option.elim, List.length_take,
        List.length_drop] <;> omega

/-- The best die is the first of the ranking. -/
theorem CountsBest.keptOf_eq (best : term.CountsBest) (length : ranked.length = term.magnitude) :
    Filter.keptOf term.filter ranked = ranked.take 1 := by
  have positive := term.magnitude_pos
  obtain ⟨unfiltered, one⟩ | kept | dropped := best
  · rw [unfiltered, Filter.keptOf, List.take_of_length_le (by omega)]
  · rw [kept]
    rfl
  · have first : ranked.length - ((term.magnitude : Int) - 1).toNat = 1 := by omega
    rw [dropped, Filter.keptOf, Pick.left, first]

theorem CountsWorst.keptOf_eq (worst : term.CountsWorst) (length : ranked.length = term.magnitude) :
    Filter.keptOf term.filter ranked = ranked.drop (ranked.length - 1) := by
  obtain kept | dropped := worst
  · rw [kept]
    rfl
  · have last : ((term.magnitude : Int) - 1).toNat = ranked.length - 1 := by omega
    rw [dropped, Filter.keptOf, Pick.left, last]

end Term

/-! ## Criticals -/

/-- What the draws for the dice of a term make of a roll, if all dice of their size are the
term's. -/
structure Critical.FollowsFrom (term : Term) (draws : List Int) (outcome : Option Critical) :
    Prop where
  counted : 2 ≤ term.leaves term.magnitude ∨ term.CountsBest ∨ term.CountsWorst
  several : 2 ≤ term.leaves term.magnitude → outcome = none
  best : term.CountsBest →
    (outcome = some .success ↔ dieSize ∈ draws) ∧
      (outcome = some .fail ↔ ∀ draw ∈ draws, draw = 1)
  worst : term.CountsWorst →
    (outcome = some .success ↔ ∀ draw ∈ draws, draw = dieSize) ∧
      (outcome = some .fail ↔ 1 ∈ draws)

namespace Critical

variable {term : Term} {faces : List Int}

theorem detect_plainDice (size : term.size = dieSize) (faces : List Int) :
    detect (Selection.apply term.filter (faces.map term.plainDie)) =
      ofFaces (Filter.keptOf term.filter (Selection.rankedValues (faces.map term.plainDie))) := by
  have sized : ∀ die ∈ Selection.apply term.filter (faces.map term.plainDie),
      die.size = dieSize := by
    refine (Selection.forall_mem_apply_iff (fun _ _ => Iff.rfl) _ _).mpr ?_
    exact List.forall_mem_map.mpr fun _ _ => size
  have once : ∀ die ∈ Selection.apply term.filter (faces.map term.plainDie),
      die.result = die.value := by
    refine (Selection.forall_mem_apply_iff (fun _ _ => Iff.rfl) _ _).mpr ?_
    exact List.forall_mem_map.mpr fun _ _ => rfl
  have fresh : ∀ die ∈ faces.map term.plainDie, die.dropped = false :=
    List.forall_mem_map.mpr fun _ _ => rfl
  have results : (Selection.kept (Selection.apply term.filter (faces.map term.plainDie))).map
      RolledDie.result = (Selection.kept _).map RolledDie.value :=
    List.map_congr_left fun die member => once die (List.mem_of_mem_filter member)
  rw [detect_eq_ofFaces sized, results]
  exact ofFaces_perm (Selection.values_apply_perm term.filter _ fresh).1

theorem followsFrom_faces (size : term.size = dieSize) (length : faces.length = term.magnitude)
    (shown : ∀ face ∈ faces, 1 ≤ face ∧ face ≤ dieSize) :
    FollowsFrom term faces (detect (Selection.apply term.filter (faces.map term.plainDie))) := by
  have permuted := Selection.rankedValues_perm (faces.map term.plainDie)
  rw [TermRoll.map_value_plainDie] at permuted
  have ordered := Selection.pairwise_rankedValues (faces.map term.plainDie)
  rw [detect_plainDice size]
  generalize Selection.rankedValues (faces.map term.plainDie) = ranked at permuted ordered
  have ranks : ranked.length = term.magnitude := permuted.length_eq.trans length
  have some : ranked ≠ [] := List.ne_nil_of_length_pos (ranks ▸ term.magnitude_pos)
  have member : ∀ {face}, face ∈ ranked ↔ face ∈ faces := permuted.mem_iff
  refine ⟨term.counts_cases, fun several => ?_, fun best => ?_, fun worst => ?_⟩
  · exact ofFaces_of_two_le (Term.length_keptOf ranks ▸ several)
  · obtain ⟨face, inside, taken, greatest⟩ := exists_take_one ordered some
    obtain ⟨atLeast, atMost⟩ := shown face (member.mp inside)
    rw [best.keptOf_eq ranks, taken, ofFaces, ofFace_eq_success_iff, ofFace_eq_fail_iff]
    constructor
    · constructor
      · exact fun equal => equal ▸ member.mp inside
      · exact fun drawn => Int.le_antisymm atMost (greatest _ (member.mpr drawn))
    · constructor
      · intro equal draw drawn
        exact Int.le_antisymm (equal ▸ greatest draw (member.mpr drawn)) (shown draw drawn).1
      · exact fun all => all face (member.mp inside)
  · obtain ⟨face, inside, taken, least⟩ := exists_drop_last ordered some
    obtain ⟨atLeast, atMost⟩ := shown face (member.mp inside)
    rw [worst.keptOf_eq ranks, taken, ofFaces, ofFace_eq_success_iff, ofFace_eq_fail_iff]
    constructor
    · constructor
      · intro equal draw drawn
        exact Int.le_antisymm (shown draw drawn).2 (equal ▸ least draw (member.mpr drawn))
      · exact fun all => all face (member.mp inside)
    · constructor
      · exact fun equal => equal ▸ member.mp inside
      · exact fun drawn => Int.le_antisymm (least _ (member.mpr drawn)) atLeast

end Critical

theorem Term.die_eq_sided {term : Term} (size : term.size = Critical.dieSize) :
    term.die = .sided Critical.dieSize := by
  unfold Term.size at size
  cases kind : term.die with
  | sided sides =>
      rw [kind] at size
      exact congrArg Die.sided size
  | fudge =>
      rw [kind] at size
      exact absurd size (by decide)

namespace Expression

variable {State : Type} {source : Source State} {cap : Int} {expression : Expression}
  {text : String} {label : Option String} {state next : State} {result : RollResult}
  {earlier later : List Term} {term : Term}

theorem size_ne_of_recorded {terms : List Term} {parts : List TermRoll} {size : Int}
    (others : ∀ term ∈ terms, term.size ≠ size)
    (recorded : List.Forall₂ (fun term part => term.Recorded cap part) terms parts) :
    ∀ die ∈ (parts.map TermRoll.dice).flatten, die.size ≠ size := by
  induction recorded with
  | nil => nofun
  | cons first _ ih =>
      obtain ⟨here, later⟩ := List.forall_mem_cons.mp others
      rw [List.map_cons, List.flatten_cons]
      refine List.forall_mem_append.mpr ⟨fun die member => ?_, ih later⟩
      rw [(first.dice die member).size]
      exact here

/-- What a roll has done around one of its terms, and the calls that it has made for it. -/
theorem exists_pool_around (terms : expression.dice = earlier ++ term :: later)
    (rolled : expression.roll source cap text label state = .ok result next) :
    ∃ parts pool part rest, List.Forall₂ (fun term part => term.Recorded cap part) earlier parts ∧
      term.Pool cap pool ∧ TermRoll.ofPool term pool = .ok part ∧
      List.Forall₂ (fun term part => term.Recorded cap part) later rest ∧
      RollResult.ofParts (parts ++ part :: rest) expression.modifier text label = .ok result ∧
      (∃ before after, source.Answers before (term.blockCalls pool) after) ∧
      ∀ noted, expression.roll source.recorded cap text label (state, noted) =
        .ok result (next, noted ++ (Term.callsOf earlier (parts.map TermRoll.dice) ++
          (term.blockCalls pool ++ Term.callsOf later (rest.map TermRoll.dice)))) := by
  obtain ⟨parts, before, pool, after, part, rest, front, thrown, written, back, finished⟩ :=
    (roll_eq_ok_iff_around terms).mp rolled
  obtain ⟨frontRecorded, frontAnswers⟩ := (TermRoll.mapM_roll_yields cap earlier _ _ _).mp front
  obtain ⟨shape, answers⟩ := (Pool.throwAll_yields term cap _ _ _).mp thrown
  obtain ⟨backRecorded, backAnswers⟩ := (TermRoll.mapM_roll_yields cap later _ _ _).mp back
  refine ⟨parts, pool, part, rest, frontRecorded, shape, written, backRecorded, finished,
    ⟨before, after, answers⟩, fun noted => ?_⟩
  simp only [Term.callsOf, List.zipWith_map_right, ← List.append_assoc]
  exact (roll_eq_ok_iff_around terms).mpr ⟨parts, _, pool, _, part, rest,
    (TermRoll.mapM_roll_yields cap earlier _ _ _).mpr ⟨frontRecorded, frontAnswers.recorded _⟩,
    (Pool.throwAll_yields term cap _ _ _).mpr ⟨shape, answers.recorded _⟩, written,
    (TermRoll.mapM_roll_yields cap later _ _ _).mpr ⟨backRecorded, backAnswers.recorded _⟩,
    finished⟩

/-- If the dice with twenty sides belong to one term that throws each of them once, the draws for
them decide whether a roll is critical. Neither the other terms nor the modifier matter, and of the
term itself only the number of its dice and its filter. -/
theorem detect_followsFrom (inRange : source.InRange)
    (terms : expression.dice = earlier ++ term :: later) (size : term.size = Critical.dieSize)
    (others : ∀ other ∈ earlier ++ later, other.size ≠ Critical.dieSize)
    (once : term.ThrowsOnce)
    (rolled : expression.roll source cap text label state = .ok result next)
    (noted : List Call) :
    ∃ calls, expression.roll source.recorded cap text label (state, noted) =
        .ok result (next, noted ++ calls) ∧
      (drawsFor Critical.dieSize calls).length = term.magnitude ∧
      Critical.FollowsFrom term (drawsFor Critical.dieSize calls)
        (Critical.detect result.dice) := by
  obtain ⟨parts, pool, part, rest, front, shape, written, back, finished, ⟨before, after, answers⟩,
    onRecord⟩ := exists_pool_around terms rolled
  obtain ⟨othersBefore, othersAfter⟩ := List.forall_mem_append.mp others
  have shows := Term.shows_of_answers inRange answers
  obtain ⟨faces, length, rfl, drawn⟩ := once.exists_faces_of_pool shape shows
  have face : term.die.drawOf = id := by rw [Term.die_eq_sided size]; rfl
  rw [face, List.map_id] at drawn
  have shown : ∀ draw ∈ faces, 1 ≤ draw ∧ draw ≤ Critical.dieSize := by
    rw [Term.blockCalls_eq, drawn, size] at answers
    exact inRange.forall_mem answers
  have dice : Critical.detect result.dice =
      Critical.detect (Selection.apply term.filter (faces.map term.plainDie)) := by
    rw [(RollResult.ofParts_eq_ok finished).2, List.map_append, List.map_cons, List.flatten_append,
      List.flatten_cons, Critical.detect_around (size_ne_of_recorded othersBefore front)
      (size_ne_of_recorded othersAfter back), (TermRoll.ofPool_eq_ok written).2.1]
  refine ⟨_, onRecord noted, ?_⟩
  rw [drawsFor_append, drawsFor_append, Term.drawsFor_callsOf_eq_nil othersBefore,
    Term.drawsFor_blockCalls size, drawn, Term.drawsFor_callsOf_eq_nil othersAfter,
    List.append_nil, List.nil_append, dice]
  exact ⟨length, Critical.followsFrom_faces size length shown⟩

/-- Four dice with twenty sides are subtracted, of which the three lowest do not count. -/
def omen : Term :=
  ⟨-4, .sided 20, some (.drop ⟨.lowest, 3⟩), none, false, some 15, by decide, by decide, by decide⟩

theorem detect_followsFrom_omen :
    omen.CountsBest ∧ ∃ result next calls,
      roll Generator.source 10 ⟨[pikes, omen], 1⟩ "" none (.scripted [3, 5, 1, 7, 20, 12, 1]) =
        .ok result next ∧
      roll Generator.source.recorded 10 ⟨[pikes, omen], 1⟩ "" none
          (.scripted [3, 5, 1, 7, 20, 12, 1], []) = .ok result (next, [] ++ calls) ∧
      (drawsFor Critical.dieSize calls).length = omen.magnitude ∧
      Critical.FollowsFrom omen (drawsFor Critical.dieSize calls)
        (Critical.detect result.dice) := by
  obtain ⟨result, next, rolled⟩ := exists_roll_pair pikes omen
    (TermRoll.exists_spends_of_small [3, 5, 1] rfl (by decide) (by decide) (by decide)
      (by decide))
    (TermRoll.exists_spends_of_small [7, 20, 12, 1] rfl (by decide) (by decide) (by decide)
      (by decide))
  have once : omen.ThrowsOnce := ⟨rfl, fun _ _ ⟨_, present, _⟩ => nomatch present⟩
  have sizes : ∀ other ∈ [pikes] ++ [], other.size ≠ Critical.dieSize := by decide
  obtain ⟨calls, followed⟩ :=
    detect_followsFrom Generator.source_inRange rfl rfl sizes once rolled []
  exact ⟨.inr (.inr rfl), result, next, calls, rolled, followed⟩

end Expression

end TabletopDice
