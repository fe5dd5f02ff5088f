import Mathlib.Data.List.TakeDrop
import Mathlib.Data.List.TakeWhile
import TabletopDice.Notation.Token
import TabletopDice.Proofs.Text.Delimited

/-!
The written forms of term tokens. `TermToken.Spells` lists the parts of a token with their texts,
without saying how they are read. Reading from the left, which never goes back, finds exactly the
token that a text spells.
-/

set_option autoImplicit false

namespace TabletopDice

/-- A written number has at least one digit and nothing but digits. -/
structure DigitRun (text : List Char) : Prop where
  nonempty : text ≠ []
  digits : ∀ c ∈ text, Text.isDigit c = true

def FilterKind.letters : FilterKind → List Char
  | .keep => ['k', 'K']
  | .drop => ['d', 'D']

def Side.letters : Side → List Char
  | .highest => ['h', 'H']
  | .lowest => ['l', 'L']

inductive SizeToken.Spells : SizeToken → List Char → Prop where
  | digits {run} : DigitRun run → Spells (.digits run) run
  | percent : Spells .percent ['%']
  | fudge {c} : c ∈ ['f', 'F'] → Spells .fudge [c]

inductive NumberSpelling : Option (List Char) → List Char → Prop where
  | absent : NumberSpelling none []
  | present {run} : DigitRun run → NumberSpelling (some run) run

/-- A number behind one of some marks; both may be left out together. -/
inductive MarkedSpelling (marks : List Char) : Option (List Char) → List Char → Prop where
  | absent : MarkedSpelling marks none []
  | present {mark run} : mark ∈ marks → DigitRun run →
      MarkedSpelling marks (some run) (mark :: run)

inductive FilterSpelling : Option FilterToken → List Char → Prop where
  | absent : FilterSpelling none []
  | present {kind side first second run} :
      first ∈ FilterKind.letters kind → second ∈ Side.letters side → DigitRun run →
      FilterSpelling (some ⟨kind, side, run⟩) (first :: second :: run)

def explodeText (explode : Bool) : List Char :=
  if explode then ['!'] else []

/-- The parts of a token in their order. -/
inductive TermToken.Spells (token : TermToken) : List Char → Prop where
  | parts {count die size filter reroll success} :
      NumberSpelling token.count count → die ∈ ['d', 'D'] → token.size.Spells size →
      FilterSpelling token.filter filter → MarkedSpelling ['r', 'R'] token.reroll reroll →
      MarkedSpelling ['>'] token.success success →
      token.Spells (count ++ die ::
        (size ++ (filter ++ (reroll ++ (explodeText token.explode ++ success)))))

/-! ## Letters -/

theorem FilterKind.ofLetter?_eq_some_iff {kind : FilterKind} {c : Char} :
    FilterKind.ofLetter? c = some kind ↔ c ∈ kind.letters := by
  unfold FilterKind.ofLetter? isLetter
  cases kind <;> grind [FilterKind.letters]

theorem Side.ofLetter?_eq_some_iff {side : Side} {c : Char} :
    Side.ofLetter? c = some side ↔ c ∈ side.letters := by
  unfold Side.ofLetter? isLetter
  cases side <;> grind [Side.letters]

theorem isLetter_die_iff {c : Char} : isLetter 'd' c = true ↔ c ∈ ['d', 'D'] := by
  simp [isLetter]

theorem isLetter_fudge_iff {c : Char} : isLetter 'f' c = true ↔ c ∈ ['f', 'F'] := by
  simp [isLetter]

theorem isLetter_reroll_iff {c : Char} : isLetter 'r' c = true ↔ c ∈ ['r', 'R'] := by
  simp [isLetter]

theorem isLetter_success_iff {c : Char} : isLetter '>' c = true ↔ c ∈ ['>'] := by
  simp [isLetter]

/-! ## What may follow a part -/

theorem MarkedSpelling.startsIn {marks later text rest : List Char} {number : Option (List Char)}
    (spelling : MarkedSpelling marks number text) (starts : StartsIn later rest) :
    StartsIn (marks ++ later) (text ++ rest) := by
  cases spelling with
  | absent => exact fun c first => List.mem_append_right _ (starts c first)
  | present mark run => simpa [StartsIn] using Or.inl mark

theorem startsIn_explodeText (explode : Bool) {later rest : List Char}
    (starts : StartsIn later rest) : StartsIn ('!' :: later) (explodeText explode ++ rest) := by
  cases explode with
  | false => exact fun c first => List.mem_cons_of_mem _ (starts c first)
  | true => simp [StartsIn, explodeText]

theorem FilterSpelling.startsIn {later text rest : List Char} {filter : Option FilterToken}
    (spelling : FilterSpelling filter text) (starts : StartsIn later rest) :
    StartsIn (['k', 'K', 'd', 'D'] ++ later) (text ++ rest) := by
  cases spelling with
  | absent => exact fun c first => List.mem_append_right _ (starts c first)
  | @present kind side first second run firstLetter secondLetter digits =>
      intro c found
      cases found
      refine List.mem_append_left _ ?_
      cases kind <;> revert firstLetter <;> simp +contextual [FilterKind.letters, or_imp]

/-- What the parts behind the size of a token may begin with, together with all that follows. -/
structure TailStarts (filter reroll : List Char) (explode : Bool) (success : List Char) :
    Prop where
  atSuccess : StartsIn ['>'] success
  atExplode : StartsIn ['!', '>'] (explodeText explode ++ success)
  atReroll : StartsIn ['r', 'R', '!', '>'] (reroll ++ (explodeText explode ++ success))
  atFilter : StartsIn ['k', 'K', 'd', 'D', 'r', 'R', '!', '>']
    (filter ++ (reroll ++ (explodeText explode ++ success)))

theorem tailStarts {filter? : Option FilterToken} {reroll? success? : Option (List Char)}
    {filter reroll success : List Char} (explode : Bool)
    (filterSpelling : FilterSpelling filter? filter)
    (rerollSpelling : MarkedSpelling ['r', 'R'] reroll? reroll)
    (successSpelling : MarkedSpelling ['>'] success? success) :
    TailStarts filter reroll explode success := by
  have successStarts : StartsIn ['>'] success := by
    have starts : StartsIn (['>'] ++ []) (success ++ []) :=
      successSpelling.startsIn (by simp [StartsIn])
    simpa using starts
  have explodeStarts := startsIn_explodeText explode successStarts
  have rerollStarts := rerollSpelling.startsIn explodeStarts
  exact ⟨successStarts, explodeStarts, rerollStarts, filterSpelling.startsIn rerollStarts⟩

/-! ## Reading written forms -/

theorem takeDigits?_append {run rest : List Char} (digits : DigitRun run)
    (ends : ∀ c ∈ rest.head?, Text.isDigit c = false) :
    takeDigits? (run ++ rest) = some (run, rest) := by
  have taken : (run ++ rest).span Text.isDigit = (run, rest) := by
    rw [List.span_eq_takeWhile_dropWhile, List.takeWhile_append_of_pos digits.digits,
      List.dropWhile_append_of_pos digits.digits]
    cases rest with
    | nil => simp
    | cons c rest => simp [ends c rfl]
  unfold takeDigits?
  rw [taken]
  split
  · rename_i empty
    exact absurd (congrArg Prod.fst empty) digits.nonempty
  · rfl

theorem takeDigits?_eq_none {text : List Char}
    (ends : ∀ c ∈ text.head?, Text.isDigit c = false) : takeDigits? text = none := by
  cases text with
  | nil => rfl
  | cons c rest => simp [takeDigits?, List.span_eq_takeWhile_dropWhile, ends c rfl]

theorem takeDigits?_sound {text run rest : List Char}
    (taken : takeDigits? text = some (run, rest)) : DigitRun run ∧ text = run ++ rest := by
  unfold takeDigits? at taken
  rw [List.span_eq_takeWhile_dropWhile] at taken
  split at taken
  · cases taken
  · rename_i present
    cases taken
    refine ⟨⟨fun empty => present _ (by rw [empty]), fun c member => ?_⟩, ?_⟩
    · exact List.mem_takeWhile_imp member
    · exact List.takeWhile_append_dropWhile.symm

theorem takeCount_append {number : Option (List Char)} {text rest : List Char}
    (spelling : NumberSpelling number text) (ends : ∀ c ∈ rest.head?, Text.isDigit c = false) :
    takeCount (text ++ rest) = (number, rest) := by
  unfold takeCount
  cases spelling with
  | absent => simp [takeDigits?_eq_none ends]
  | present digits => simp [takeDigits?_append digits ends]

theorem takeDie?_cons {c : Char} {rest : List Char} (letter : c ∈ ['d', 'D']) :
    takeDie? (c :: rest) = some rest := by
  simp only [takeDie?, if_pos (isLetter_die_iff.mpr letter)]

theorem SizeToken.take?_append {size : SizeToken} {text rest : List Char}
    (spelling : size.Spells text) (ends : ∀ c ∈ rest.head?, Text.isDigit c = false) :
    SizeToken.take? (text ++ rest) = some (size, rest) := by
  unfold SizeToken.take?
  cases spelling with
  | digits digits => simp [takeDigits?_append digits ends]
  | percent =>
      have noDigits : takeDigits? ('%' :: rest) = none :=
        takeDigits?_eq_none (by simp; decide)
      simp [noDigits]
  | @fudge c letter =>
      have noDigits : takeDigits? (c :: rest) = none := by
        refine takeDigits?_eq_none fun first found => ?_
        cases found
        rcases letter with _ | ⟨_, _ | ⟨_, ⟨⟩⟩⟩ <;> rfl
      have notPercent : c ≠ '%' := by
        intro same
        subst same
        simp at letter
      simp [noDigits, notPercent, isLetter_fudge_iff.mpr letter]

theorem FilterToken.take_eq_none {text : List Char}
    (starts : StartsIn ['r', 'R', '!', '>'] text) : FilterToken.take text = (none, text) := by
  unfold FilterToken.take
  split
  · rename_i first second rest
    have noKind : FilterKind.ofLetter? first = none := by
      have other := starts.head?_eq_false (fun c => (FilterKind.ofLetter? c).isSome) (by decide)
      simpa using other first rfl
    simp [noKind]
  · rfl

theorem FilterToken.take_append {filter : Option FilterToken} {text rest : List Char}
    (spelling : FilterSpelling filter text) (starts : StartsIn ['r', 'R', '!', '>'] rest) :
    FilterToken.take (text ++ rest) = (filter, rest) := by
  cases spelling with
  | absent => exact FilterToken.take_eq_none starts
  | present firstLetter secondLetter digits =>
      have ends := starts.head?_eq_false Text.isDigit (by decide)
      simp [FilterToken.take, FilterKind.ofLetter?_eq_some_iff.mpr firstLetter,
        Side.ofLetter?_eq_some_iff.mpr secondLetter, takeDigits?_append digits ends]

theorem takeNumber_append {letter : Char} {marks text rest : List Char}
    {number : Option (List Char)} (letters : ∀ c, isLetter letter c = true ↔ c ∈ marks)
    (spelling : MarkedSpelling marks number text)
    (other : ∀ c ∈ rest.head?, isLetter letter c = false)
    (ends : ∀ c ∈ rest.head?, Text.isDigit c = false) :
    takeNumber letter (text ++ rest) = (number, rest) := by
  cases spelling with
  | absent =>
      cases rest with
      | nil => rfl
      | cons c rest => simp [takeNumber, other c rfl]
  | present mark digits =>
      simp [takeNumber, (letters _).mpr mark, takeDigits?_append digits ends]

theorem takeExplode_append (explode : Bool) {rest : List Char} (starts : StartsIn ['>'] rest) :
    takeExplode (explodeText explode ++ rest) = (explode, rest) := by
  cases explode with
  | true => rfl
  | false =>
      unfold takeExplode explodeText
      split
      · rename_i later same
        have first : '!' ∈ rest.head? := by
          rw [show rest = '!' :: later from same]
          rfl
        simpa using starts '!' first
      · rfl

/-- A written token is read. Each part is followed by a character that cannot continue it. -/
theorem TermToken.read?_of_spells {token : TermToken} {text : List Char}
    (spelling : token.Spells text) : TermToken.read? text = some token := by
  cases spelling with
  | @parts count die size filter reroll success countSpelling dieLetter sizeSpelling
      filterSpelling rerollSpelling successSpelling =>
      have starts := tailStarts token.explode filterSpelling rerollSpelling successSpelling
      have dieStarts : StartsIn ['d', 'D'] (die ::
          (size ++ (filter ++ (reroll ++ (explodeText token.explode ++ success))))) := by
        simpa [StartsIn] using dieLetter
      have countTaken := takeCount_append countSpelling
        (dieStarts.head?_eq_false Text.isDigit (by decide))
      have sizeTaken := SizeToken.take?_append sizeSpelling
        (starts.atFilter.head?_eq_false Text.isDigit (by decide))
      have rerollTaken := takeNumber_append (fun _ => isLetter_reroll_iff) rerollSpelling
        (starts.atExplode.head?_eq_false (isLetter 'r') (by decide))
        (starts.atExplode.head?_eq_false Text.isDigit (by decide))
      have successTaken : takeNumber '>' (success ++ []) = (token.success, []) :=
        takeNumber_append (fun _ => isLetter_success_iff) successSpelling (by simp) (by simp)
      rw [List.append_nil] at successTaken
      simp [TermToken.read?, countTaken, takeDie?_cons dieLetter, sizeTaken,
        FilterToken.take_append filterSpelling starts.atReroll, rerollTaken,
        takeExplode_append token.explode starts.atSuccess, successTaken]

/-! ## What reading has found -/

theorem takeCount_sound {text rest : List Char} {number : Option (List Char)}
    (taken : takeCount text = (number, rest)) :
    ∃ spelled, NumberSpelling number spelled ∧ text = spelled ++ rest := by
  unfold takeCount at taken
  cases found : takeDigits? text with
  | none =>
      simp only [found] at taken
      cases taken
      exact ⟨[], .absent, rfl⟩
  | some run =>
      simp only [found] at taken
      cases taken
      obtain ⟨digits, same⟩ := takeDigits?_sound found
      exact ⟨run.1, .present digits, same⟩

theorem takeDie?_sound {text rest : List Char} (taken : takeDie? text = some rest) :
    ∃ c ∈ ['d', 'D'], text = c :: rest := by
  cases text with
  | nil => cases taken
  | cons c tail =>
      simp only [takeDie?, Option.ite_none_right_eq_some, Option.some.injEq] at taken
      obtain ⟨letter, rfl⟩ := taken
      exact ⟨c, isLetter_die_iff.mp letter, rfl⟩

theorem SizeToken.take?_sound {size : SizeToken} {text rest : List Char}
    (taken : SizeToken.take? text = some (size, rest)) :
    ∃ spelled, size.Spells spelled ∧ text = spelled ++ rest := by
  unfold SizeToken.take? at taken
  cases digits : takeDigits? text with
  | some found =>
      obtain ⟨run, tail⟩ := found
      simp only [digits] at taken
      cases taken
      obtain ⟨wellFormed, same⟩ := takeDigits?_sound digits
      exact ⟨run, .digits wellFormed, same⟩
  | none =>
      cases text with
      | nil => simp [digits] at taken
      | cons c tail =>
          simp only [digits] at taken
          by_cases percent : c = '%'
          · simp only [percent, beq_self_eq_true, ↓reduceIte, Option.some.injEq] at taken
            cases taken
            exact ⟨['%'], .percent, by rw [percent]; rfl⟩
          · by_cases letter : isLetter 'f' c = true
            · simp [percent, letter] at taken
              obtain ⟨rfl, rfl⟩ := taken
              exact ⟨[c], .fudge (isLetter_fudge_iff.mp letter), rfl⟩
            · simp [percent, letter] at taken

theorem FilterToken.take_sound {text rest : List Char} {filter : Option FilterToken}
    (taken : FilterToken.take text = (filter, rest)) :
    ∃ spelled, FilterSpelling filter spelled ∧ text = spelled ++ rest := by
  unfold FilterToken.take at taken
  split at taken
  · split at taken
    · rename_i kindFound sideFound digitsFound
      cases taken
      obtain ⟨digits, rfl⟩ := takeDigits?_sound digitsFound
      exact ⟨_, .present (FilterKind.ofLetter?_eq_some_iff.mp kindFound)
        (Side.ofLetter?_eq_some_iff.mp sideFound) digits, rfl⟩
    · cases taken
      exact ⟨[], .absent, rfl⟩
  · cases taken
    exact ⟨[], .absent, rfl⟩

theorem takeNumber_sound {letter : Char} {marks text rest : List Char}
    {number : Option (List Char)} (letters : ∀ c, isLetter letter c = true ↔ c ∈ marks)
    (taken : takeNumber letter text = (number, rest)) :
    ∃ spelled, MarkedSpelling marks number spelled ∧ text = spelled ++ rest := by
  unfold takeNumber at taken
  split at taken
  · split at taken
    · rename_i mark
      split at taken
      · rename_i digitsFound
        cases taken
        obtain ⟨digits, rfl⟩ := takeDigits?_sound digitsFound
        exact ⟨_, .present ((letters _).mp mark) digits, rfl⟩
      · cases taken
        exact ⟨[], .absent, rfl⟩
    · cases taken
      exact ⟨[], .absent, rfl⟩
  · cases taken
    exact ⟨[], .absent, rfl⟩

theorem takeExplode_sound {text rest : List Char} {explode : Bool}
    (taken : takeExplode text = (explode, rest)) : text = explodeText explode ++ rest := by
  unfold takeExplode at taken
  split at taken <;> cases taken <;> rfl

theorem TermToken.spells_of_read? {token : TermToken} {text : List Char}
    (read : TermToken.read? text = some token) : token.Spells text := by
  unfold TermToken.read? at read
  simp only [Option.bind_eq_bind, Option.bind_eq_some_iff] at read
  obtain ⟨afterDie, dieTaken, ⟨size, afterSize⟩, sizeTaken, read⟩ := read
  cases countTaken : takeCount text with | mk count afterCount =>
  cases filterTaken : FilterToken.take afterSize with | mk filter afterFilter =>
  cases rerollTaken : takeNumber 'r' afterFilter with | mk reroll afterReroll =>
  cases explodeTaken : takeExplode afterReroll with | mk explode afterExplode =>
  cases successTaken : takeNumber '>' afterExplode with | mk success afterSuccess =>
  simp only [countTaken, filterTaken, rerollTaken, explodeTaken, successTaken] at read dieTaken
  obtain ⟨countText, countSpelling, rfl⟩ := takeCount_sound countTaken
  obtain ⟨die, dieLetter, rfl⟩ := takeDie?_sound dieTaken
  obtain ⟨sizeText, sizeSpelling, rfl⟩ := SizeToken.take?_sound sizeTaken
  obtain ⟨filterText, filterSpelling, rfl⟩ := FilterToken.take_sound filterTaken
  obtain ⟨rerollText, rerollSpelling, rfl⟩ :=
    takeNumber_sound (fun _ => isLetter_reroll_iff) rerollTaken
  obtain rfl := takeExplode_sound explodeTaken
  obtain ⟨successText, successSpelling, rfl⟩ :=
    takeNumber_sound (fun _ => isLetter_success_iff) successTaken
  split at read
  · rename_i finished
    cases read
    rw [List.isEmpty_iff.mp finished, List.append_nil]
    exact .parts countSpelling dieLetter sizeSpelling filterSpelling rerollSpelling successSpelling
  · cases read

/-- Reading finds the token that a text spells, and no token in any other text. -/
theorem TermToken.read?_eq_some_iff {token : TermToken} {text : List Char} :
    TermToken.read? text = some token ↔ token.Spells text :=
  ⟨TermToken.spells_of_read?, TermToken.read?_of_spells⟩

/-- A text has at most one decomposition into the parts of a token. -/
theorem TermToken.Spells.unique {first second : TermToken} {text : List Char}
    (firstSpelling : first.Spells text) (secondSpelling : second.Spells text) : first = second :=
  Option.some.inj ((TermToken.read?_of_spells firstSpelling).symm.trans
    (TermToken.read?_of_spells secondSpelling))

end TabletopDice
