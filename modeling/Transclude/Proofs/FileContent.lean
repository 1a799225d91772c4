import Transclude.Text.Encoding.Codec
import Transclude.Reduction.Result

/-!
# What a file holds of a text

A file is never told that its text has ended. An encoding may therefore keep something back that a
text at hand as a whole would end with: a character that may be the first of a pair, or the bytes
that lead back to its first state. After a line break there is nothing of the kind, and so a file
with the text of a result holds all of it. Names of domains are the exception: a label is written
when a point ends it, and a line break is no point.

## Main definitions

* `MultiByte.SettlesAtBreaks` : whether an encoding keeps nothing back after a line break.
* `Encoding.contentOf`        : what a file holds of a text.

## Main statements

* `MultiByte.SettlesAtBreaks.encodeFile_ended` : an encoding that keeps nothing back writes it all.
* `EastAsian.settlesAtBreaks`                  : so do those of Chinese, Japanese and Korean.
* `Encoding.writeFile_eq_contentOf`            : what a file gets of a text that ends with a break.
-/

namespace Transclude

/-- Whether characters are none or end with a line break, as those do that make lines. -/
def Text.Ended (s : List Char) : Prop := s = [] ∨ ∃ t, s = t ++ ['\n']

theorem Text.ended_joinLines (lines : List String) : Ended (joinLines lines).toList := by
  rcases List.eq_nil_or_concat lines with rfl | ⟨before, last, rfl⟩
  · exact .inl rfl
  · exact .inr ⟨(joinLines before).toList ++ last.toList, by simp [toList_joinLines]⟩

/-- The text of a result is empty or ends with a line break. -/
theorem Result.text_ended (r : Result) : Text.Ended r.text.toList := Text.ended_joinLines _

/-! ## Encodings that keep something back -/

/-- Whether the characters that are written along with one are none, or the next, which is no line
break. -/
def MultiByte.TakesAlong (rest : List Char) (more : Nat) : Prop :=
  more = 0 ∨ more = 1 ∧ ∃ d after, rest = d :: after ∧ d ≠ '\n'

/-- Whether a way to write a character, with the characters after it, leaves nothing open: only the
last character may be undecided, and no pair ends with a line break. -/
def Given.Settled {σ : Type} (rest : List Char) : Given σ → Prop
  | .bytes _ more _ => MultiByte.TakesAlong rest more
  | .illegal => True
  | .undecided => rest = []

/-- A character by itself leaves nothing open. -/
theorem Given.settled_one {σ : Type} (rest : List Char) (state : σ) (b? : Option (List UInt8)) :
    (Given.one state b?).Settled rest := by
  cases b? with
  | none => trivial
  | some b => exact .inl rfl

namespace MultiByte

/-- Whether an encoding keeps nothing back at the start and after a line break: a line break is
written at once and leads to a state after which nothing is missing, and no way to write a character
leaves anything open. -/
structure SettlesAtBreaks (e : MultiByte) : Prop where
  start : e.finish e.start = []
  breaks : ∀ state, ∃ b next,
    (∀ rest, e.give state '\n' rest = .bytes b 0 next) ∧ e.finish next = []
  settled : ∀ state c rest, (e.give state c rest).Settled rest

/-- What is left after the characters that are written at once still ends with a line break. -/
theorem drop_ended {σ : Type} {s : List Char} {b : List UInt8} {more : Nat} {next : σ}
    (h : (Given.bytes b more next).Settled (s ++ ['\n'])) :
    ∃ left, (s ++ ['\n']).drop more = left ++ ['\n'] ∧ left.length ≤ s.length := by
  rcases h with rfl | ⟨rfl, d, after, heq, hd⟩
  · exact ⟨s, rfl, Nat.le_refl _⟩
  · cases s with
    | nil =>
      obtain ⟨rfl, -⟩ := List.cons.inj heq
      exact absurd rfl hd
    | cons first s => exact ⟨s, rfl, Nat.le_succ _⟩

/-- Characters that end with a line break are written alike whether they are a whole text or not. -/
theorem SettlesAtBreaks.encodeFrom_ended {e : MultiByte} (h : e.SettlesAtBreaks) (s : List Char)
    (position : Nat) (state : e.State) :
    e.encodeFrom false position state (s ++ ['\n']) =
      e.encodeFrom true position state (s ++ ['\n']) := by
  -- by induction on the number of characters, of which a step may write several
  induction hlength : s.length using Nat.strongRecOn generalizing s position state with
  | ind length ih =>
    subst hlength
    cases s with
    | nil =>
      -- the line break is the last, and after it nothing is missing
      obtain ⟨b, next, hbreak, hfinish⟩ := h.breaks state
      simp [encodeFrom, hbreak, hfinish]
    | cons c s =>
      -- before the line break it makes no difference whether the text has ended
      have hsettled := h.settled state c (s ++ ['\n'])
      have hrest : (true && (s ++ ['\n']).isEmpty) = false := by simp
      rw [List.cons_append, encodeFrom, encodeFrom, hrest, Bool.false_and,
        if_neg Bool.false_ne_true]
      cases hgive : e.give state c (s ++ ['\n']) with
      | illegal => rfl
      | undecided => rfl
      | bytes b more next =>
        rw [hgive] at hsettled
        obtain ⟨left, hleft, hlength⟩ := drop_ended hsettled
        dsimp only
        rw [hleft, ih left.length (by simp; omega) left _ _ rfl]

/-- A file holds the whole of a text that ends with a line break. -/
theorem SettlesAtBreaks.encodeFile_ended {e : MultiByte} (h : e.SettlesAtBreaks) {s : List Char}
    (hs : Text.Ended s) : e.encodeFile s = e.encode s := by
  rcases hs with rfl | ⟨s, rfl⟩
  · rw [encodeFile, encode, encodeFrom, encodeFrom, h.start]
    rfl
  · exact h.encodeFrom_ended s 0 e.start

/-! ## The encodings -/

/-- Where each character is written by itself, and line breaks are among them, nothing is kept
back. -/
theorem settlesAtBreaks_single (name : String) (take : UInt8 → List UInt8 → Taken Unit)
    {bytes? : Char → Option (List UInt8)} {b : List UInt8} (hbreak : bytes? '\n' = some b) :
    (stateless name take fun c _ => .one () (bytes? c)).SettlesAtBreaks where
  start := rfl
  breaks := fun _ => ⟨b, (), fun _ => by simp [stateless, hbreak, Given.one], rfl⟩
  settled := fun _ c rest => Given.settled_one rest () (bytes? c)

theorem settlesAtBreaks_hz : hz.SettlesAtBreaks where
  start := rfl
  breaks := by
    intro (inside : Bool)
    cases inside with
    | false => exact ⟨[0x0A], false, fun _ => rfl, rfl⟩
    -- out of the set of pairs first
    | true => exact ⟨[0x7E, 0x7D, 0x0A], false, fun _ => rfl, rfl⟩
  settled := by
    intro inside c rest
    simp only [hz]
    split
    · exact .inl rfl
    · split
      · exact .inl rfl
      · trivial

/-- A pair of characters that has a place does not end with a line break if none in the set does. -/
theorem apart_of_pairs {pairs : List (Nat × Char × Char)} {entry : Nat × Char × Char} {c d : Char}
    (hpairs : ∀ entry ∈ pairs, entry.2.2 ≠ '\n') (h : pairs.find? (·.2 == (c, d)) = some entry) :
    d ≠ '\n' := by
  have hsecond : entry.2 = (c, d) := by simpa using List.find?_some h
  have hapart := hpairs entry (List.mem_of_find?_eq_some h)
  rwa [hsecond] at hapart

theorem hongKongPairs_apart : ∀ entry ∈ CodedSet.hongKongPairs, entry.2.2 ≠ '\n' := by
  simp [CodedSet.hongKongPairs]

theorem settlesAtBreaks_hongKong : hongKong.SettlesAtBreaks where
  start := rfl
  breaks := fun _ => ⟨[0x0A], (), fun _ => rfl, rfl⟩
  settled := by
    intro _ c rest
    simp only [hongKong, stateless]
    split
    · exact .inl rfl
    · split
      · split
        · rfl
        · rename_i d after
          split
          · rename_i entry hentry
            exact .inr ⟨rfl, d, after, rfl, apart_of_pairs hongKongPairs_apart hentry⟩
          · exact Given.settled_one _ _ _
      · exact Given.settled_one _ _ _

theorem jis0213Pairs_apart : ∀ entry ∈ CodedSet.jis0213Pairs, entry.2.2 ≠ '\n' := by
  simp [CodedSet.jis0213Pairs]

theorem Edition.paired?_apart {e : Edition} {c d : Char} {place : Nat}
    (h : e.paired? c d = some place) : d ≠ '\n' := by
  unfold paired? at h
  split at h
  · rename_i hzero
    rw [beq_iff_eq.1 hzero]
    decide
  · obtain ⟨entry, hentry, -⟩ := Option.map_eq_some_iff.1 h
    exact apart_of_pairs jis0213Pairs_apart hentry

theorem Edition.single_alone {e : Edition} {c : Char} :
    e.single c ≠ .undecided ∧ ∀ place more, e.single c = .first place more → more = 0 := by
  unfold single
  split
  · simp
  · split
    · simp
    · split
      · split <;> simp_all
      · split <;> simp

/-- Where a character is in the planes depends on another only if that is there and is no line
break. -/
theorem Edition.placement_apart {e : Edition} {c : Char} {rest : List Char} :
    (e.placement c rest = .undecided → rest = []) ∧
      ∀ place more, e.placement c rest = .first place more → TakesAlong rest more := by
  obtain ⟨hdecided, halone⟩ := e.single_alone (c := c)
  unfold placement
  split
  · split
    · exact ⟨fun _ => rfl, by simp⟩
    · rename_i d after
      split
      · rename_i place hpaired
        refine ⟨by simp, fun _ _ h => ?_⟩
        cases h
        exact .inr ⟨rfl, d, after, rfl, paired?_apart hpaired⟩
      · exact ⟨fun h => absurd h hdecided, fun place more h => .inl (halone place more h)⟩
  · exact ⟨fun h => absurd h hdecided, fun place more h => .inl (halone place more h)⟩

theorem settlesAtBreaks_shiftJis0213 (e : Edition) : (shiftJis0213 e).SettlesAtBreaks where
  start := rfl
  breaks := fun _ => ⟨[0x0A], (), fun _ => rfl, rfl⟩
  settled := by
    intro _ c rest
    simp only [shiftJis0213, stateless]
    split
    · exact .inl rfl
    · split
      · trivial
      · split
        · exact .inl rfl
        · split
          · rename_i hplacement
            exact Edition.placement_apart.2 _ _ hplacement
          · exact Given.settled_one _ _ _
          · rename_i hplacement
            exact Edition.placement_apart.1 hplacement
          · trivial
          · trivial

theorem settlesAtBreaks_euc0213 (e : Edition) : (euc0213 e).SettlesAtBreaks where
  start := rfl
  breaks := fun _ => ⟨[0x0A], (), fun _ => rfl, rfl⟩
  settled := by
    intro _ c rest
    simp only [euc0213, stateless]
    split
    · exact .inl rfl
    · split
      · exact .inl rfl
      · split
        · rename_i hplacement
          exact Edition.placement_apart.2 _ _ hplacement
        · exact .inl rfl
        · rename_i hplacement
          exact Edition.placement_apart.1 hplacement
        · trivial
        · exact Given.settled_one _ _ _

/-- A set writes a character with another only if that is there and is no line break. -/
theorem Designation.bytes?_apart {d : Designation} {c : Char} {rest : List Char}
    {b : List UInt8} {more : Nat} (h : d.bytes? c rest = some (b, more)) :
    TakesAlong rest more := by
  -- only the planes of JIS X 0213 have pairs
  unfold bytes? at h
  cases d with
  | roman =>
    dsimp only at h
    split at h
    · cases h
      exact .inl rfl
    · split at h
      · cases h
        exact .inl rfl
      · cases h
  | kana =>
    dsimp only at h
    split at h
    · cases h
      exact .inl rfl
    · cases h
  | jis0208 | jis0212 | ksx1001 | gb2312 =>
    obtain ⟨place, -, hplace⟩ := Option.map_eq_some_iff.1 h
    cases hplace
    exact .inl rfl
  | jis0213First e =>
    dsimp only at h
    split at h
    · rename_i hplacement
      cases h
      exact Edition.placement_apart.2 _ _ hplacement
    · cases h
  | jis0213Second e =>
    dsimp only at h
    split at h
    · cases h
      exact .inl rfl
    · cases h
  | ascii | latin | greek | jis0208Old => cases h

theorem Designated.pairOf_apart {e : Designated} {c : Char} {rest : List Char} :
    (e.pairOf c rest = some none → rest = []) ∧
      ∀ found, e.pairOf c rest = some (some found) → ∃ d after, rest = d :: after ∧ d ≠ '\n' := by
  unfold pairOf
  split
  · split
    · split
      · exact ⟨fun _ => rfl, by simp⟩
      · rename_i d after
        refine ⟨fun h => ?_, fun found h => ?_⟩
        · obtain ⟨place, -, hplace⟩ := Option.map_eq_some_iff.1 h
          cases hplace
        · obtain ⟨place, hplace, -⟩ := Option.map_eq_some_iff.1 h
          exact ⟨d, after, rfl, Edition.paired?_apart hplace⟩
    · simp
  · simp

theorem settlesAtBreaks_designated (e : Designated) : e.coding.SettlesAtBreaks where
  start := rfl
  breaks := by
    intro state
    refine ⟨(e.leadTo state .ascii).1 ++ [0x0A], (e.leadTo state .ascii).2, fun _ => rfl, ?_⟩
    -- a line break is of ASCII, and leads there
    have hback :
        (e.leadTo state .ascii).2 = { state with plain := .ascii, isShifted := false } := by
      unfold Designated.leadTo
      simp
    rw [hback]
    rfl
  settled := by
    intro state c rest
    show (e.give state c rest).Settled rest
    unfold Designated.give
    dsimp only
    split
    · exact .inl rfl
    · split
      · rename_i hpair
        exact Designated.pairOf_apart.1 hpair
      · rename_i hpair
        exact .inr ⟨rfl, Designated.pairOf_apart.2 _ hpair⟩
      · split
        · rename_i hfound
          obtain ⟨d, -, hd⟩ := List.exists_of_findSome?_eq_some hfound
          obtain ⟨written, hwritten, heq⟩ := Option.map_eq_some_iff.1 hd
          cases heq
          exact Designation.bytes?_apart hwritten
        · trivial

end MultiByte

/-- The encodings of Chinese, Japanese and Korean keep nothing back after a line break. -/
theorem EastAsian.settlesAtBreaks (e : EastAsian) : e.coding.SettlesAtBreaks := by
  cases e with
  | gb2312 | gbk | gb18030 | big5 | windowsBig5 | shiftJis | windowsJapanese | eucJapanese
  | eucKorean | unifiedHangul | johab =>
    exact MultiByte.settlesAtBreaks_single _ _ (b := [0x0A]) rfl
  | hz => exact MultiByte.settlesAtBreaks_hz
  | hongKong => exact MultiByte.settlesAtBreaks_hongKong
  | shiftJis0213 e => exact MultiByte.settlesAtBreaks_shiftJis0213 e
  | euc0213 e => exact MultiByte.settlesAtBreaks_euc0213 e
  | designated d => exact MultiByte.settlesAtBreaks_designated d

/-! ## Files -/

namespace Encoding

/-- What a file holds of a text in the encoding that is chosen: the whole text, except that of names
of domains, of which a label is written when a point ends it, only the labels before the last point
are there. -/
def contentOf (choice : EncodingChoice) (text : String) : Except EncodingError (List UInt8) :=
  match forFile choice with
  | .error e => .error e
  | .ok .idna => (Idna.encodeFile text.toList).mapError .idna
  | .ok e => e.encode text

/-- What a file gets of a text that ends with a line break is the whole text, unless it is written
as names of domains. -/
theorem encodeFile_ended {e : Encoding} {text : String} (htext : Text.Ended text.toList)
    (hother : e ≠ .idna) : e.encodeFile text = e.encode text := by
  cases e with
  | idna => exact absurd rfl hother
  | eastAsian e =>
    unfold encodeFile encode
    dsimp only
    rw [e.settlesAtBreaks.encodeFile_ended htext]
  | _ => rfl

theorem writeFile_eq_contentOf (choice : EncodingChoice) {text : String}
    (htext : Text.Ended text.toList) : writeFile choice text = contentOf choice text := by
  unfold writeFile contentOf
  split
  · rename_i e he
    rw [he]
    rfl
  · rename_i he
    rw [he]
    rfl
  · rename_i e hother he
    rw [he]
    exact encodeFile_ended htext (by rintro rfl; exact hother rfl)

end Encoding

end Transclude
