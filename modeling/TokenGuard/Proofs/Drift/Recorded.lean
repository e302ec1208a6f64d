import Mathlib.Data.List.Infix
import TokenGuard.Block
import TokenGuard.Proofs.Text.Cut

/-! The hash that a generated block records is the one that is read back from it. -/

namespace TokenGuard

/-- A hash as it is recorded: the label, and at least one digit. -/
def IsRecordable (hash : Text) : Prop :=
  ∃ digits : Text, digits ≠ [] ∧ (∀ c ∈ digits, isHashDigit c = true) ∧
    hash = fingerprintLabel ++ digits

/-- Every digit below sixteen may be recorded. -/
theorem isHashDigit_hexDigit {n : Nat} (small : n < 16) : isHashDigit (hexDigit n) = true := by
  -- Sixteen digits, each of which is in one of the two ranges.
  have each : ∀ n : Fin 16, isHashDigit (hexDigit n) = true := by decide
  exact each ⟨n, small⟩

/-- A digest has a first byte. -/
theorem digest_ne_nil (message : List UInt8) : Sha256.digest message ≠ [] := by
  simp [Sha256.digest, Sha256.State.words, Sha256.bigEndian]

/-- A fingerprint can be recorded. -/
theorem isRecordable_fingerprint (message : List UInt8) : IsRecordable (fingerprint message) := by
  refine ⟨(sha256Hex message).take fingerprintDigits, ?_, ?_, rfl⟩
  · -- The first byte of the digest already gives two digits.
    obtain ⟨byte, bytes, same⟩ := List.exists_cons_of_ne_nil (digest_ne_nil message)
    simp [sha256Hex, hexText, same, fingerprintDigits]
  · -- Every character is one of the two digits of a byte.
    intro c member
    obtain ⟨byte, -, digit⟩ := List.mem_flatMap.mp (List.mem_of_mem_take member)
    have bound := byte.toNat_lt
    rcases List.mem_pair.mp digit with rfl | rfl
    · exact isHashDigit_hexDigit (by omega)
    · exact isHashDigit_hexDigit (by omega)

/-- A text that does not start with the opening of a hash comment starts with no hash comment. -/
theorem hashComment?_eq_none {text : Text} (other : ¬ hashOpening <+: text) :
    hashComment? text = none := by
  -- The comment starts with the opening and the label of a fingerprint.
  have absent : Text.dropPrefix? (hashOpening ++ fingerprintLabel) text = none := by
    rw [Text.dropPrefix?_eq_none_iff]
    exact fun start => other ((List.prefix_append _ _).trans start)
  simp [hashComment?, absent]

/-- A recordable hash is read from its comment. -/
theorem hashComment?_written {hash : Text} (recordable : IsRecordable hash) (rest : Text) :
    hashComment? (hashOpening ++ hash ++ hashClosing ++ rest) = some hash := by
  obtain ⟨digits, nonempty, each, rfl⟩ := recordable
  -- The digits end before the blank that closes the comment.
  have blank : hashClosing = ' ' :: ("*/" : Text) := rfl
  have stops : isHashDigit ' ' = false := by decide
  have divided : hashOpening ++ (fingerprintLabel ++ digits) ++ hashClosing ++ rest =
      (hashOpening ++ fingerprintLabel) ++ (digits ++ (hashClosing ++ rest)) := by simp
  have taken : (digits ++ (hashClosing ++ rest)).takeWhile isHashDigit = digits := by
    rw [List.takeWhile_append_of_pos each]
    simp [blank, stops]
  have left : (digits ++ (hashClosing ++ rest)).dropWhile isHashDigit = hashClosing ++ rest := by
    rw [List.dropWhile_append_of_pos each]
    simp [blank, stops]
  rw [divided, hashComment?, Text.dropPrefix?_eq_some_iff.mpr rfl]
  simp only [Option.bind_eq_bind, Option.bind_some, taken, left,
    Text.dropPrefix?_eq_some_iff.mpr rfl]
  simp [nonempty]

/-- No hash is read from a front in which no opening starts, whatever is behind it. -/
theorem extractHash_append {front rest : Text}
    (clear : ∀ piece, piece <:+ front → piece ≠ [] →
      ¬ piece <+: hashOpening ∧ ¬ hashOpening <+: piece) :
    extractHash (front ++ rest) = extractHash rest := by
  -- The search passes the characters of the front one by one.
  induction front with
  | nil => rfl
  | cons c front ih =>
    -- An opening at the first character would be a part of the front or reach over its end.
    have absent : hashComment? (c :: front ++ rest) = none := by
      refine hashComment?_eq_none fun start => ?_
      have apart := clear (c :: front) (List.suffix_refl _) (by simp)
      rcases List.prefix_or_prefix_of_prefix start (List.prefix_append (c :: front) rest) with
        inside | beyond
      · exact apart.2 inside
      · exact apart.1 beyond
    have later := ih fun piece behind => clear piece (behind.trans (List.suffix_cons c front))
    rw [List.cons_append, extractHash, ← List.cons_append, absent, later, Option.none_or]

/-- The hash of a block is read back, whatever token lines follow. -/
theorem extractHash_formatBlock {hash : Text} (recordable : IsRecordable hash)
    (tokens : List Text) : extractHash (formatBlock hash tokens) = some hash := by
  -- The banner is a comment, but not one that opens like a hash.
  have clear : ∀ piece ∈ List.tails (['\n'] ++ blockLine banner ++ indent),
      piece ≠ [] → ¬ piece <+: hashOpening ∧ ¬ hashOpening <+: piece := by decide +kernel
  have divided : formatBlock hash tokens = (['\n'] ++ blockLine banner ++ indent) ++
      (hashOpening ++ hash ++ hashClosing ++ (['\n'] ++ tokens.flatMap blockLine ++ indent)) := by
    simp [formatBlock, blockLine]
  rw [divided, extractHash_append fun piece behind => clear piece ((List.mem_tails ..).mpr behind)]
  -- At the opening the hash is found right away.
  have opening : hashOpening = '/' :: ("* HASH: " : Text) := rfl
  have found := hashComment?_written recordable (['\n'] ++ tokens.flatMap blockLine ++ indent)
  simp only [opening, List.cons_append] at found ⊢
  rw [extractHash, found, Option.some_or]

end TokenGuard
