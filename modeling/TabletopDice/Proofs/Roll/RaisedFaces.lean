import TabletopDice.Proofs.Roll.Complement
import TabletopDice.Proofs.Roll.RankedValues

/-!
Fudge dice as dice with three sides. A fudge die shows two less than a die with three sides on the
same draw. A term whose fudge dice are exchanged for such dice, and whose rerolled faces and
threshold are raised with them, throws again, brings bonus dice, drops and counts in the same
places, so that only the faces and the sum over them are higher.
-/

set_option autoImplicit false

namespace TabletopDice

open Sequencing

/-! ## Two faces higher -/

theorem Die.fudge_size_pos : 0 < Die.fudge.size := by
  decide

def FaceSet.raised (faces : FaceSet) : FaceSet :=
  ⟨faces.values.map (· + 2),
    List.pairwise_map.mpr (faces.ascending.imp fun less => Int.add_lt_add_right less 2)⟩

theorem FaceSet.mem_raised_iff {faces : FaceSet} {face : Int} :
    face + 2 ∈ faces.raised ↔ face ∈ faces := by
  change face + 2 ∈ faces.values.map (· + 2) ↔ face ∈ faces.values
  simp [List.mem_map]

def RolledDie.raised (die : RolledDie) : RolledDie :=
  { die with result := die.result + 2, modified := die.modified.map (· + 2) }

theorem RolledDie.value_raised (die : RolledDie) : die.raised.value = die.value + 2 := by
  unfold value raised
  cases die.modified <;> rfl

/-- The term with dice that have three sides, and all else that names a face two higher. -/
def Term.raised (term : Term) : Term :=
  { term with
    die := .sided Die.fudgeSize
    reroll := term.reroll.map FaceSet.raised
    success := term.success.map (· + 2)
    size_pos := by decide }

namespace Term

variable {term : Term} (fudge : term.die = .fudge)
include fudge

theorem size_raised : term.size = term.raised.size := by
  rw [size, fudge]
  rfl

theorem maxFace_raised : term.raised.maxFace = term.maxFace + 2 := by
  rw [maxFace, maxFace, fudge]
  rfl

end Term

/-! ## Faults without names -/

/-- The fault without the label of the term whose chain overran the cap. -/
def RollFault.unnamed : RollFault → RollFault
  | explosion _ cap => explosion "" cap
  | fault => fault

namespace Rolling

variable {State Value Result : Type}

def unnamed (action : Rolling State Value) : Rolling State Value :=
  action.adaptExcept RollFault.unnamed

theorem unnamed_pure (value : Value) : unnamed (pure value : Rolling State Value) = pure value :=
  rfl

theorem unnamed_bind (step : Rolling State Value) (later : Value → Rolling State Result) :
    unnamed (step >>= later) = unnamed step >>= fun value => unnamed (later value) := by
  funext state
  simp only [unnamed, EStateM.adaptExcept, bind, EStateM.bind]
  cases step state <;> rfl

theorem unnamed_repeated (times : Nat) (action : Rolling State Value) :
    unnamed (repeated times action) = repeated times (unnamed action) := by
  induction times with
  | zero => rfl
  | succ times ih =>
      simp only [repeated_succ, unnamed_bind, unnamed_pure, ih]

theorem unnamed_eq_ok_iff {action : Rolling State Value} {state next : State} {value : Value} :
    unnamed action state = .ok value next ↔ action state = .ok value next :=
  run_adaptExcept_eq_ok_iff

theorem Yields.unnamed {source : Source State} {action : Rolling State Value}
    {allowed : Value → Prop} {calls : Value → List Call}
    (yields : Yields source action allowed calls) :
    Yields source (unnamed action) allowed calls :=
  fun state value next => unnamed_eq_ok_iff.trans (yields state value next)

theorem Legible.unnamed {action : Rolling State Value} {state : State}
    (legible : Legible (action state)) : Legible (unnamed action state) := by
  intro limit next failed
  obtain ⟨fault, stopped, same⟩ := run_adaptExcept_eq_error_iff.mp failed
  cases fault with
  | numeral other => exact legible other next stopped
  | explosion _ _ => cases same
  | draw _ => cases same

variable {First Second : Type} {related : First → Second → Prop}

theorem Agree.repeated {first : Rolling State First} {second : Rolling State Second}
    (agree : Agree related first second) (times : Nat) :
    Agree (List.Forall₂ related) (TabletopDice.repeated times first)
      (TabletopDice.repeated times second) := by
  induction times with
  | zero => exact .pure .nil
  | succ times ih =>
      rw [repeated_succ, repeated_succ]
      refine agree.bind fun _ _ value => ?_
      exact ih.bind fun _ _ values => .pure (.cons value values)

end Rolling

/-! ## Throwing -/

namespace Pool

variable {State : Type} {source : Source State} {cap : Int} {term : Term}
  (fudge : term.die = .fudge)

theorem capFault_cases (term : Term) (cap : Int) :
    (∃ limit, capFault term cap = .numeral limit) ∨
      ∃ label shown, Text.writeInt cap = .ok shown ∧
        capFault term cap = .explosion label shown := by
  unfold capFault
  cases term.label with
  | error limit => exact .inl ⟨limit, rfl⟩
  | ok label =>
      cases Text.writeInt cap with
      | error limit => exact .inl ⟨limit, rfl⟩
      | ok shown => exact .inr ⟨label, shown, rfl, rfl⟩

/-- Apart from the label, any two terms report a cap alike. -/
theorem capFault_agree {First Second : Type} {related : First → Second → Prop}
    {first second : Term} :
    Rolling.Agree related (Rolling.unnamed (throw (capFault first cap) : Rolling State First))
      (Rolling.unnamed (throw (capFault second cap) : Rolling State Second)) := by
  intro state firstLegible secondLegible
  obtain ⟨limit, fault⟩ | ⟨label, shown, capShown, fault⟩ := capFault_cases first cap
  · rw [fault] at firstLegible
    exact absurd rfl (firstLegible limit state)
  · obtain ⟨limit, otherFault⟩ | ⟨otherLabel, otherShown, otherCapShown, otherFault⟩ :=
      capFault_cases second cap
    · rw [otherFault] at secondLegible
      exact absurd rfl (secondLegible limit state)
    · rw [fault, otherFault, Except.ok.inj (capShown.symm.trans otherCapShown)]
      exact .capped

theorem throwFace_raised :
    Rolling.Agree (fun face other => other = face + 2) (Rolling.unnamed (throwFace source .fudge))
      (Rolling.unnamed (throwFace source (.sided Die.fudgeSize))) := by
  have second : throwFace source (.sided Die.fudgeSize) =
      Rolling.draw source 1 Die.fudgeSize >>= pure := (bind_pure _).symm
  rw [second, throwFace, Rolling.unnamed_bind, Rolling.unnamed_bind]
  refine (Rolling.agree_self _).bind fun face other same => .pure ?_
  omega

include fudge

theorem throwDie_raised :
    Rolling.Agree (fun die other => other = die.raised) (Rolling.unnamed (throwDie source term))
      (Rolling.unnamed (throwDie source term.raised)) := by
  have again (face : Int) : term.raised.reroll.any (face + 2 ∈ ·) = term.reroll.any (face ∈ ·) := by
    simp only [Term.raised]
    cases term.reroll with
    | none => rfl
    | some faces => exact decide_eq_decide.mpr FaceSet.mem_raised_iff
  have size : term.size = term.raised.size := Term.size_raised fudge
  have die : term.raised.die = .sided Die.fudgeSize := rfl
  rw [throwDie, throwDie, fudge, die, Rolling.unnamed_bind, Rolling.unnamed_bind]
  refine throwFace_raised.bind fun face other raised => ?_
  subst raised
  rw [again, size]
  split
  · rw [Rolling.unnamed_bind, Rolling.unnamed_bind]
    refine throwFace_raised.bind fun second other raised => ?_
    subst raised
    exact .pure rfl
  · exact .pure rfl

theorem continueChain_raised (allowance : Nat) (thrown : List RolledDie) :
    Rolling.Agree (fun bonus other => other = bonus.map RolledDie.raised)
      (Rolling.unnamed (continueChain source term cap allowance thrown))
      (Rolling.unnamed (continueChain source term.raised cap allowance
        (thrown.map RolledDie.raised))) := by
  have die : term.raised.die = .sided Die.fudgeSize := rfl
  induction allowance generalizing thrown with
  | zero => exact capFault_agree
  | succ allowance ih =>
      rw [continueChain, continueChain, fudge, die, Rolling.unnamed_bind, Rolling.unnamed_bind]
      refine throwFace_raised.bind fun face other raised => ?_
      subst raised
      have greatest : face + 2 = term.raised.maxFace ↔ face = term.maxFace := by
        rw [Term.maxFace_raised fudge]
        omega
      rw [Term.size_raised fudge]
      by_cases shown : face = term.maxFace
      · rw [if_pos shown, if_pos (greatest.mpr shown)]
        exact ih ({ size := term.raised.size, result := face, exploded := true } :: thrown)
      · rw [if_neg shown, if_neg (fun met => shown (greatest.mp met))]
        refine .pure ?_
        rw [List.map_reverse]
        rfl

theorem block_raised :
    Rolling.Agree (fun block other => other = block.map RolledDie.raised)
      (Rolling.unnamed (block source term cap))
      (Rolling.unnamed (block source term.raised cap)) := by
  rw [block, block, Rolling.unnamed_bind, Rolling.unnamed_bind]
  refine (throwDie_raised fudge).bind fun die other raised => ?_
  subst raised
  have explodes : (term.raised.explode && die.raised.result == term.raised.maxFace) =
      (term.explode && die.result == term.maxFace) := by
    have greatest : (die.result + 2 == term.maxFace + 2) = (die.result == term.maxFace) := by
      simp
    rw [Term.maxFace_raised fudge]
    exact congrArg (term.explode && ·) greatest
  rw [explodes]
  split
  · rw [Rolling.unnamed_bind, Rolling.unnamed_bind]
    refine (continueChain_raised fudge cap.toNat []).bind fun bonus other raised => ?_
    subst raised
    exact .pure rfl
  · exact .pure rfl

theorem throwAll_raised :
    Rolling.Agree (fun pool other => other = pool.map RolledDie.raised)
      (Rolling.unnamed (throwAll source term cap))
      (Rolling.unnamed (throwAll source term.raised cap)) := by
  have magnitude : term.raised.magnitude = term.magnitude := rfl
  rw [throwAll, throwAll, blocks, blocks, magnitude, Rolling.unnamed_bind, Rolling.unnamed_bind,
    Rolling.unnamed_repeated, Rolling.unnamed_repeated]
  refine ((block_raised fudge).repeated _).bind fun pool other raised => .pure ?_
  clear fudge magnitude
  induction raised with
  | nil => rfl
  | cons block _ ih => rw [List.flatten_cons, List.flatten_cons, List.map_append, block, ih]

end Pool

theorem Term.Owns.raised {term : Term} {block : List RolledDie} (owns : term.Owns block) :
    term.raised.Owns (block.map RolledDie.raised) where
  head := by
    obtain ⟨first, rest, rfl, base⟩ := owns.head
    exact ⟨first.raised, rest.map RolledDie.raised, rfl, base⟩
  base := by
    rw [List.countP_map]
    exact owns.base

/-! ## Dropping and counting -/

namespace Selection

variable {view : RolledDie → RolledDie}
  (ordered : ∀ first second : RolledDie,
    (view first).value ≤ (view second).value ↔ first.value ≤ second.value)
include ordered

/-- A view that keeps the order of values keeps the ranking. -/
theorem ranking_map (dice : List RolledDie) :
    ranking (dice.map view) = (ranking dice).map fun entry => (view entry.1, entry.2) := by
  have places : (dice.map view).zipIdx = dice.zipIdx.map fun entry => (view entry.1, entry.2) :=
    List.zipIdx_map
  rw [ranking, ranking, places]
  exact (List.map_mergeSort fun first _ second _ =>
    decide_eq_decide.mpr (ordered second.1 first.1).symm).symm

theorem pickedPlaces_map (pick : Pick) (dice : List RolledDie) :
    pickedPlaces pick (dice.map view) = pickedPlaces pick dice := by
  have places : ((ranking dice).map fun entry => (view entry.1, entry.2)).map Prod.snd =
      (ranking dice).map Prod.snd := List.map_map
  simp only [pickedPlaces, ranking_map ordered, places, List.length_map]

theorem apply_map (marked : ∀ (die : RolledDie) (dropped : Bool),
      view { die with dropped } = { view die with dropped })
    (filter : Option Filter) (dice : List RolledDie) :
    apply filter (dice.map view) = (apply filter dice).map view := by
  cases filter with
  | none => rfl
  | some filter =>
      have places : (dice.map view).zipIdx = dice.zipIdx.map fun entry => (view entry.1, entry.2) :=
        List.zipIdx_map
      simp only [apply, mark, places, pickedPlaces_map ordered, List.length_map, List.map_map]
      exact List.map_congr_left fun entry _ => (marked entry.1 _).symm

end Selection

theorem RolledDie.value_raised_le_iff {first second : RolledDie} :
    first.raised.value ≤ second.raised.value ↔ first.value ≤ second.value := by
  rw [value_raised, value_raised]
  exact Int.add_le_add_iff_right 2

theorem Selection.apply_raised (filter : Option Filter) (dice : List RolledDie) :
    apply filter (dice.map RolledDie.raised) = (apply filter dice).map RolledDie.raised :=
  apply_map (fun _ _ => RolledDie.value_raised_le_iff) (fun _ _ => rfl) filter dice

theorem RolledDie.sum_value_raised (dice : List RolledDie) :
    Number.sum (dice.map fun die => die.raised.value) =
      Number.sum (dice.map RolledDie.value) + 2 * dice.length := by
  induction dice with
  | nil => rfl
  | cons die dice ih =>
      rw [List.map_cons, List.map_cons, Number.sum_cons, Number.sum_cons, ih, value_raised,
        List.length_cons]
      omega

namespace Term

/-- What a term with a block gains if its faces are raised: two for every die that counts, as long
as dice are not counted against a threshold. -/
def gain (term : Term) (block : List RolledDie) : Int :=
  if term.success.isSome then 0
  else if term.isNegative then -(2 * Selection.survivors block) else 2 * Selection.survivors block

end Term

namespace TermRoll

theorem scoreOf_raised (success : Option Int) (dice : List RolledDie) :
    scoreOf (success.map (· + 2)) (dice.map RolledDie.raised) =
      scoreOf success dice + if success.isSome then 0 else 2 * Selection.survivors dice := by
  have kept : Selection.kept (dice.map RolledDie.raised) =
      (Selection.kept dice).map RolledDie.raised := List.filter_map
  cases success with
  | none =>
      simp only [Option.map_none, scoreOf, kept, List.map_map]
      exact RolledDie.sum_value_raised (Selection.kept dice)
  | some threshold =>
      simp only [Option.map_some, scoreOf, kept, List.countP_map, Option.isSome_some, if_true]
      refine congrArg Nat.cast (List.countP_congr fun die _ => ?_)
      rw [Function.comp_apply, RolledDie.value_raised, decide_eq_true_eq, decide_eq_true_eq]
      exact Int.add_le_add_iff_right 2

variable {term : Term} {pool : List RolledDie} {part other : TermRoll}

theorem dice_raised (written : ofPool term pool = .ok part)
    (otherWritten : ofPool term.raised (pool.map RolledDie.raised) = .ok other) :
    other.dice = part.dice.map RolledDie.raised := by
  rw [(ofPool_eq_ok written).2.1, (ofPool_eq_ok otherWritten).2.1]
  exact Selection.apply_raised term.filter pool

theorem contribution_raised (written : ofPool term pool = .ok part)
    (otherWritten : ofPool term.raised (pool.map RolledDie.raised) = .ok other) :
    other.contribution = part.contribution + term.gain part.dice := by
  obtain ⟨sign, -, score⟩ := ofPool_eq_ok written
  obtain ⟨otherSign, -, otherScore⟩ := ofPool_eq_ok otherWritten
  have raised : other.score =
      part.score + if term.success.isSome then 0 else 2 * Selection.survivors part.dice := by
    rw [score, otherScore, dice_raised written otherWritten]
    exact scoreOf_raised term.success part.dice
  have sameSign : other.isNegative = part.isNegative := otherSign.trans sign.symm
  rw [contribution, contribution, sameSign, raised, Term.gain, ← sign]
  cases part.isNegative <;> cases term.success.isSome <;> simp only [if_true, Bool.false_eq_true,
    if_false] <;> omega

end TermRoll

theorem Rolling.unnamed_written {State Value : Type} (text : Except Text.DigitLimit Value) :
    unnamed (written text : Rolling State Value) = written text := by
  cases text <;> rfl

/-! ## Whole rolls -/

namespace Expression

variable {State : Type} {source : Source State} {cap : Int} {earlier later : List Term}
  {term : Term} {modifier : Int} {text otherText : String} {label otherLabel : Option String}

/-- The other result is the result with the faces of one term raised. -/
structure RaisedIn (earlier : List Term) (term : Term) (later : List Term)
    (result other : RollResult) (done : List (List RolledDie)) (block : List RolledDie)
    (rest : List (List RolledDie)) : Prop where
  before : done.length = earlier.length
  cut : IsCut (earlier ++ term :: later) result.dice (done ++ block :: rest)
  otherCut : IsCut (earlier ++ term.raised :: later) other.dice
    (done ++ block.map RolledDie.raised :: rest)
  total : other.total = result.total + term.gain block

theorem raisedIn_of_parts {parts rest : List TermRoll} {pool : List RolledDie}
    {part otherPart : TermRoll} {result other : RollResult}
    (front : List.Forall₂ (fun term part => term.Recorded cap part) earlier parts)
    (shape : term.Pool cap pool) (written : TermRoll.ofPool term pool = .ok part)
    (otherWritten : TermRoll.ofPool term.raised (pool.map RolledDie.raised) = .ok otherPart)
    (back : List.Forall₂ (fun term part => term.Recorded cap part) later rest)
    (finished : RollResult.ofParts (parts ++ part :: rest) modifier text label = .ok result)
    (otherFinished : RollResult.ofParts (parts ++ otherPart :: rest) modifier otherText
      otherLabel = .ok other) :
    RaisedIn earlier term later result other (parts.map TermRoll.dice) part.dice
      (rest.map TermRoll.dice) where
  before := by rw [List.length_map, front.length_eq]
  cut := by
    have terms : (Expression.mk (earlier ++ term :: later) modifier).dice =
        earlier ++ term :: later := rfl
    exact isCut_around terms front ⟨pool, shape, written⟩ back finished
  otherCut := by
    have owns : term.Owns part.dice := Term.Recorded.owns ⟨pool, shape, written⟩
    have owned {terms : List Term} {parts : List TermRoll}
        (recorded : List.Forall₂ (fun term part => term.Recorded cap part) terms parts) :
        List.Forall₂ Term.Owns terms (parts.map TermRoll.dice) :=
      List.forall₂_map_right_iff.mpr (recorded.imp fun _ _ => Term.Recorded.owns)
    constructor
    · rw [(RollResult.ofParts_eq_ok otherFinished).2, List.map_append, List.map_cons,
        TermRoll.dice_raised written otherWritten]
    · exact List.rel_append (owned front) (.cons owns.raised (owned back))
  total := by
    have gained := TermRoll.contribution_raised written otherWritten
    rw [(RollResult.ofParts_eq_ok finished).1, (RollResult.ofParts_eq_ok otherFinished).1]
    simp only [List.map_append, List.map_cons, Number.sum_append, Number.sum_cons, gained]
    omega

theorem roll_raised_agree (fudge : term.die = .fudge) :
    Rolling.Agree
      (fun result other => ∃ done block rest, RaisedIn earlier term later result other done block
        rest)
      (Rolling.unnamed (roll source cap ⟨earlier ++ term :: later, modifier⟩ text label))
      (Rolling.unnamed
        (roll source cap ⟨earlier ++ term.raised :: later, modifier⟩ otherText otherLabel)) := by
  rw [roll_eq_around rfl, roll_eq_around rfl]
  simp only [Rolling.unnamed_bind, Rolling.unnamed_written]
  refine (Rolling.agree_of_yields (TermRoll.mapM_roll_yields cap earlier).unnamed).bind ?_
  rintro parts _ ⟨rfl, front⟩
  refine ((Pool.throwAll_raised fudge).and_returns fun _ _ _ returned =>
    ((Pool.throwAll_yields term cap).unnamed _ _ _ |>.mp returned).1).bind ?_
  rintro pool _ ⟨rfl, shape⟩
  have marked : Rolling.Agree
      (fun part other => TermRoll.ofPool term pool = .ok part ∧
        TermRoll.ofPool term.raised (pool.map RolledDie.raised) = .ok other)
      (Rolling.written (TermRoll.ofPool term pool) : Rolling State TermRoll)
      (Rolling.written (TermRoll.ofPool term.raised (pool.map RolledDie.raised))) :=
    Rolling.agree_written fun _ _ written otherWritten => ⟨written, otherWritten⟩
  refine marked.bind ?_
  rintro part otherPart ⟨written, otherWritten⟩
  refine (Rolling.agree_of_yields (TermRoll.mapM_roll_yields cap later).unnamed).bind ?_
  rintro rest _ ⟨rfl, back⟩
  refine Rolling.agree_written fun result other finished otherFinished => ?_
  exact ⟨_, _, _, raisedIn_of_parts front shape written otherWritten back finished otherFinished⟩

/-- A term with fudge dice rolls like the same term with raised dice. Both make the same draws and
come to the same end, and what they show differs by the raise alone. -/
theorem roll_raised {state : State} {calls : List Call} (earlier later : List Term)
    (fudge : term.die = .fudge)
    (legible : Rolling.Legible
      (roll source.recorded cap ⟨earlier ++ term :: later, modifier⟩ text label (state, calls)))
    (otherLegible : Rolling.Legible (roll source.recorded cap
      ⟨earlier ++ term.raised :: later, modifier⟩ otherText otherLabel (state, calls))) :
    Rolling.SameCourse
      (fun result other => ∃ done block rest, RaisedIn earlier term later result other done block
        rest)
      (Rolling.unnamed (roll source.recorded cap ⟨earlier ++ term :: later, modifier⟩ text label)
        (state, calls))
      (Rolling.unnamed (roll source.recorded cap ⟨earlier ++ term.raised :: later, modifier⟩
        otherText otherLabel) (state, calls)) :=
  roll_raised_agree fudge _ legible.unnamed otherLegible.unnamed

/-- Two fudge dice that throw -1 again, and of which the higher one is subtracted. -/
def omens : Term :=
  { volley with
    die := .fudge, filter := some (.keep ⟨.highest, 1⟩), reroll := some (FaceSet.ofList [-1])
    size_pos := Die.fudge_size_pos, filter_fits := by decide }

theorem legible_of_thrown {draws : List Int} {pool : List RolledDie}
    (thrown : Pool.throwAll Generator.source term 10 (.scripted draws) = .ok pool (.scripted []))
    (writable : term.Writable) (unscored : term.success = none)
    (small : ∀ die ∈ pool, die.result.natAbs < 1000 ∧ ∀ face ∈ die.modified, face.natAbs < 1000) :
    Rolling.Legible (roll Generator.source.recorded 10 ⟨[term], 1⟩ "" none
      (.scripted draws, [])) := by
  have dice : ∀ die ∈ pool, die.Writable := fun die member =>
    ⟨Text.lt_writeBound (small die member).1, fun _ face found =>
      Text.lt_writeBound ((small die member).2 face found)⟩
  obtain ⟨part, written⟩ : ∃ part, TermRoll.ofPool term pool = .ok part :=
    TermRoll.exists_ofPool_iff.mpr ⟨writable.exists_label, dice, "", by rw [unscored]; rfl⟩
  have short : (1 : Int).natAbs < Text.writeBound := Text.lt_writeBound (by decide)
  obtain ⟨result, finished⟩ := RollResult.exists_ofParts [part] "" none short
  have terms : [term] = [] ++ term :: [] := rfl
  have rolled : roll Generator.source 10 ⟨[term], 1⟩ "" none (.scripted draws) =
      .ok result (.scripted []) :=
    (roll_eq_ok_iff_around terms).mpr
      ⟨[], _, pool, _, part, [], rfl, thrown, written, rfl, finished⟩
  obtain ⟨_, -, -, -, noted⟩ := exists_blocks_of_roll rolled
  exact Rolling.legible_of_ok (noted [])

theorem roll_raised_omens :
    let first := roll Generator.source.recorded 10 ⟨[omens], 1⟩ "" none
      (.scripted [3, 2, 1, 3], [])
    let second := roll Generator.source.recorded 10 ⟨[omens.raised], 1⟩ "" none
      (.scripted [3, 2, 1, 3], [])
    omens.die = .fudge ∧ Rolling.Legible first ∧ Rolling.Legible second ∧
      Rolling.SameCourse
        (fun result other => ∃ done block rest, RaisedIn [] omens [] result other done block rest)
        (Rolling.unnamed (roll Generator.source.recorded 10 ⟨[omens], 1⟩ "" none)
          (.scripted [3, 2, 1, 3], []))
        (Rolling.unnamed (roll Generator.source.recorded 10 ⟨[omens.raised], 1⟩ "" none)
          (.scripted [3, 2, 1, 3], [])) := by
  intro first second
  have legible : Rolling.Legible first :=
    legible_of_thrown rfl ⟨Text.lt_writeBound (by decide), Text.lt_writeBound (by decide)⟩ rfl
      (by decide)
  have otherLegible : Rolling.Legible second :=
    legible_of_thrown rfl ⟨Text.lt_writeBound (by decide), Text.lt_writeBound (by decide)⟩ rfl
      (by decide)
  exact ⟨rfl, legible, otherLegible, roll_raised [] [] rfl legible otherLegible⟩

end Expression

end TabletopDice
