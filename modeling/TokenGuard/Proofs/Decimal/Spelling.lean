import TokenGuard.Proofs.Decimal.Digit

/-! Which texts spell decimal numerals: an optional sign, digits on at least one side of an optional
point, and an optional exponent. -/

namespace TokenGuard.Numeral

variable {text rest sign : Text} {negative : Bool} {exponent : Int} {numeral : Numeral}

/-- An optional sign, and whether it is a minus. -/
inductive SpellsSign : Text → Bool → Prop
  | absent : SpellsSign [] false
  | plus : SpellsSign ['+'] false
  | minus : SpellsSign ['-'] true

/-- An optional point with the digits behind it, of which there may be none. -/
inductive SpellsFraction : Text → Text → Prop
  | absent : SpellsFraction [] []
  | pointed {digits : Text} (all : ∀ c ∈ digits, isDigit c = true) :
    SpellsFraction ('.' :: digits) digits

/-- An optional exponent: a mark in either case, a sign, and at least one digit. -/
inductive SpellsExponent : Text → Int → Prop
  | absent : SpellsExponent [] 0
  | marked {mark : Char} {sign digits : Text} {negative : Bool} (isMark : mark = 'e' ∨ mark = 'E')
    (signed : SpellsSign sign negative) (filled : digits ≠ [])
    (all : ∀ c ∈ digits, isDigit c = true) :
    SpellsExponent (mark :: (sign ++ digits))
      (if negative then -(digitsValue digits : Int) else digitsValue digits)

/-- A whole text that spells a numeral, with at least one digit before the exponent. -/
inductive Spells : Text → Numeral → Prop
  | parts {sign whole pointed fraction marked : Text} {negative : Bool} {exponent : Int}
    (signed : SpellsSign sign negative) (all : ∀ c ∈ whole, isDigit c = true)
    (divided : SpellsFraction pointed fraction) (filled : ¬ (whole = [] ∧ fraction = []))
    (scaled : SpellsExponent marked exponent) :
    Spells (sign ++ whole ++ pointed ++ marked)
      ⟨negative, digitsValue (whole ++ fraction), exponent - fraction.length⟩

/-- A text is the sign that is taken from it and what is left behind it. -/
theorem eq_of_takeSign (taken : takeSign text = (negative, rest)) :
    ∃ sign, SpellsSign sign negative ∧ text = sign ++ rest := by
  -- The first character is a minus, a plus, or no sign.
  unfold takeSign at taken
  split at taken <;> obtain ⟨rfl, rfl⟩ := Prod.mk.inj taken
  · exact ⟨['-'], .minus, rfl⟩
  · exact ⟨['+'], .plus, rfl⟩
  · exact ⟨[], .absent, rfl⟩

/-- A sign is taken from what does not go on with another one. -/
theorem takeSign_append (signed : SpellsSign sign negative)
    (unsigned : ∀ c ∈ rest.head?, c ≠ '-' ∧ c ≠ '+') :
    takeSign (sign ++ rest) = (negative, rest) := by
  cases signed with
  | plus => rfl
  | minus => rfl
  | absent =>
    rw [List.nil_append]
    cases rest with
    | nil => rfl
    | cons c rest =>
      -- Without a sign of its own, the text must not start with one.
      obtain ⟨noMinus, noPlus⟩ := unsigned c rfl
      rw [takeSign.eq_def]
      split
      · next same => exact absurd (List.cons.inj same).1 noMinus
      · next same => exact absurd (List.cons.inj same).1 noPlus
      · rfl

/-- A text is its leading digits and what is left behind them. -/
theorem eq_of_takeDigits {digits : Text} (taken : takeDigits text = (digits, rest)) :
    text = digits ++ rest ∧ ∀ c ∈ digits, isDigit c = true := by
  rw [takeDigits, List.span_eq_takeWhile_dropWhile, Prod.mk.injEq] at taken
  obtain ⟨rfl, rfl⟩ := taken
  exact ⟨List.takeWhile_append_dropWhile.symm, List.all_eq_true.mp List.all_takeWhile⟩

/-- The point and the digits behind it, if there is one, and what follows. -/
def takeFraction : Text → Text × Text
  | '.' :: text => takeDigits text
  | text => ([], text)

/-- A text is the fraction that is taken from it and what is left behind it. -/
theorem eq_of_takeFraction {fraction : Text} (taken : takeFraction text = (fraction, rest)) :
    ∃ pointed, SpellsFraction pointed fraction ∧ text = pointed ++ rest := by
  unfold takeFraction at taken
  split at taken
  · obtain ⟨rfl, all⟩ := eq_of_takeDigits taken
    exact ⟨'.' :: fraction, .pointed all, rfl⟩
  · obtain ⟨rfl, rfl⟩ := Prod.mk.inj taken
    exact ⟨[], .absent, rfl⟩

/-- A fraction is taken from what goes on neither with a digit nor with a point. -/
theorem takeFraction_append {pointed fraction : Text} (divided : SpellsFraction pointed fraction)
    (ended : ∀ c ∈ rest.head?, isDigit c = false ∧ c ≠ '.') :
    takeFraction (pointed ++ rest) = (fraction, rest) := by
  cases divided with
  | pointed all => exact takeDigits_append all fun c first => (ended c first).1
  -- Without a point of its own, the text must not go on with one.
  | absent =>
    cases rest with
    | nil => rfl
    | cons c rest =>
      rw [List.nil_append, takeFraction.eq_def]
      split
      · next same => exact absurd (List.cons.inj same).1 (ended c rfl).2
      · rfl

/-- Neither a sign nor a point is a digit. -/
theorem ne_of_isDigit {c : Char} (digit : isDigit c = true) : c ≠ '-' ∧ c ≠ '+' ∧ c ≠ '.' := by
  refine ⟨?_, ?_, ?_⟩ <;> rintro rfl <;> cases digit

/-- Some digits go on with no sign. -/
theorem unsigned_of_digits {digits : Text} (all : ∀ c ∈ digits, isDigit c = true) :
    ∀ c ∈ digits.head?, c ≠ '-' ∧ c ≠ '+' := by
  intro c first
  obtain ⟨noMinus, noPlus, -⟩ := ne_of_isDigit (all c (List.mem_of_mem_head? first))
  exact ⟨noMinus, noPlus⟩

/-- An exponent starts neither with a digit nor with a point. -/
theorem SpellsExponent.ended (scaled : SpellsExponent text exponent) :
    ∀ c ∈ text.head?, isDigit c = false ∧ c ≠ '.' := by
  intro c first
  cases scaled with
  | absent => cases first
  | marked isMark =>
    obtain rfl := Option.some.inj first
    rcases isMark with rfl | rfl <;> decide

/-- What stands behind the whole digits of a numeral starts with no digit. -/
theorem SpellsFraction.ended {pointed fraction : Text} (divided : SpellsFraction pointed fraction)
    (scaled : SpellsExponent text exponent) :
    ∀ c ∈ (pointed ++ text).head?, isDigit c = false := by
  intro c first
  cases divided with
  | absent => exact (scaled.ended c first).1
  | pointed all =>
    obtain rfl := Option.some.inj first
    decide

/-- What stands behind the sign of a numeral starts with no other sign. -/
theorem SpellsFraction.unsigned {whole pointed fraction : Text}
    (all : ∀ c ∈ whole, isDigit c = true) (divided : SpellsFraction pointed fraction)
    (filled : ¬ (whole = [] ∧ fraction = [])) (rest : Text) :
    ∀ c ∈ (whole ++ (pointed ++ rest)).head?, c ≠ '-' ∧ c ≠ '+' := by
  cases whole with
  | cons d whole => exact fun c first => unsigned_of_digits all c first
  -- Without whole digits the point comes first, since there are digits behind it.
  | nil =>
    cases divided with
    | absent => exact absurd ⟨rfl, rfl⟩ filled
    | pointed => intro c first; obtain rfl := Option.some.inj first; decide

/-- A text is read as an exponent exactly if it spells it. -/
theorem exponent?_eq_some_iff : exponent? text = some exponent ↔ SpellsExponent text exponent := by
  constructor
  · intro read
    cases text with
    | nil =>
      obtain rfl := Option.some.inj read
      exact .absent
    | cons mark text =>
      -- Behind the mark the sign is cut off, and all that is left are digits.
      cases takenSign : takeSign text with
      | mk negative behindSign =>
        obtain ⟨sign, signed, rfl⟩ := eq_of_takeSign takenSign
        rw [exponent?, takenSign] at read
        dsimp only at read
        split at read
        · next isMark =>
          split at read
          · cases read
          · next digits filled taken =>
            obtain rfl := Option.some.inj read
            obtain ⟨rfl, all⟩ := eq_of_takeDigits taken
            rw [List.append_nil]
            exact .marked (by simpa using isMark) signed filled all
          · cases read
        · cases read
  · intro spelled
    cases spelled with
    | absent => rfl
    | @marked mark sign digits negative isMark signed filled all =>
      have taken : takeDigits digits = (digits, []) := by
        have read : takeDigits (digits ++ []) = (digits, []) := takeDigits_append all (by simp)
        rwa [List.append_nil] at read
      have isMark : (mark = 'e' || mark = 'E') = true := by simpa using isMark
      obtain ⟨d, rest, rfl⟩ := List.exists_cons_of_ne_nil filled
      simp only [exponent?, isMark, if_true, takeSign_append signed (unsigned_of_digits all), taken]

/-- A numeral is read part by part. -/
theorem ofText?_eq (text : Text) :
    ofText? text =
      let (negative, behindSign) := takeSign text
      let (whole, behindWhole) := takeDigits behindSign
      let (fraction, behindFraction) := takeFraction behindWhole
      if whole.isEmpty && fraction.isEmpty then none
      else (exponent? behindFraction).map fun exponent =>
        ⟨negative, digitsValue (whole ++ fraction), exponent - fraction.length⟩ := rfl

/-- A text is read as a numeral exactly if it spells it. -/
theorem ofText?_eq_some_iff : ofText? text = some numeral ↔ Spells text numeral := by
  constructor
  · intro read
    -- Each part is cut off from the front, and what is left at the end is the exponent.
    cases takenSign : takeSign text with
    | mk negative behindSign =>
      cases takenWhole : takeDigits behindSign with
      | mk whole behindWhole =>
        cases takenFraction : takeFraction behindWhole with
        | mk fraction behindFraction =>
          obtain ⟨sign, signed, rfl⟩ := eq_of_takeSign takenSign
          obtain ⟨rfl, all⟩ := eq_of_takeDigits takenWhole
          obtain ⟨pointed, divided, rfl⟩ := eq_of_takeFraction takenFraction
          simp only [ofText?_eq, takenSign, takenWhole, takenFraction] at read
          split at read
          · cases read
          · next filled =>
            obtain ⟨exponent, scaled, rfl⟩ := Option.map_eq_some_iff.mp read
            have spelled := Spells.parts signed all divided (by simpa using filled)
              (exponent?_eq_some_iff.mp scaled)
            rwa [List.append_assoc, List.append_assoc] at spelled
  · rintro ⟨signed, all, divided, filled, scaled⟩
    have unsigned := divided.unsigned all filled
    rw [ofText?_eq, List.append_assoc, List.append_assoc, takeSign_append signed (unsigned _)]
    dsimp only
    rw [takeDigits_append all (divided.ended scaled)]
    dsimp only
    rw [takeFraction_append divided scaled.ended]
    dsimp only
    rw [if_neg (by simpa using filled), exponent?_eq_some_iff.mpr scaled]
    rfl

end TokenGuard.Numeral
