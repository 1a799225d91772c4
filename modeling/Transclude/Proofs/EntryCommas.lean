import Mathlib.Data.List.Induction
import Transclude.Include.AttrList

/-!
# The commas of an attribute list

A list of attributes is cut at its commas, except at those in quotes, and nothing else of it goes
away. Quotes begin where a value may begin, and end at the next quote of their kind before which the
backslashes in the quotes stand in pairs. Quotes without an end take in all that follows.

## Main definitions

* `AttrList.Opens`              : where quotes begin.
* `AttrList.Paired`, `Unclosed` : where quotes end.
* `AttrList.Outside`, `Within`  : whether quotes are open after the beginning of a list.
* `AttrList.SplitsAt`           : whether entries are cut apart at a place.

## Main statements

* `AttrList.outside_or_within`     : after every beginning of a list quotes are open or not.
* `AttrList.entriesFrom_cons`      : what becomes of a character.
* `AttrList.joined_entriesFrom`    : the entries make up the list.
* `AttrList.topLevel_splitsAt_iff` : a list is cut at its commas outside of quotes.
-/

namespace Transclude.AttrList

open Transclude.Text

variable {text item inside before rest : List Char} {q c : Char}

/-! ## Where quotes begin and end -/

/-- Whether a value may begin after the beginning `item` of an entry: nothing but blanks is in it,
or its last character that is not blank is an equals sign. -/
def ValueStarts (item : List Char) : Prop :=
  (∀ c ∈ item, isBlank c = true) ∨
    ∃ front blanks, item = front ++ '=' :: blanks ∧ ∀ c ∈ blanks, isBlank c = true

/-- Whether `c` opens quotes after the beginning `item` of an entry. -/
def Opens (item : List Char) (c : Char) : Prop := (c = '"' ∨ c = '\'') ∧ ValueStarts item

/-- Whether the backslashes at the end of a text stand in pairs, so that what follows them keeps its
meaning. -/
def Paired (inside : List Char) : Prop :=
  (inside.reverse.takeWhile (· == '\\')).length % 2 = 0

instance (inside : List Char) : Decidable (Paired inside) := inferInstanceAs (Decidable (_ = _))

/-- Whether no quote in a text ends the quotes that `q` opens before it. -/
def Unclosed (q : Char) (inside : List Char) : Prop :=
  ∀ front back, inside = front ++ q :: back → ¬ Paired front

theorem isQuote_iff : isQuote c = true ↔ c = '"' ∨ c = '\'' := by
  simp [isQuote]

theorem opensValue_iff : opensValue item.reverse = true ↔ ValueStarts item := by
  -- what is left of the text when the blanks at its end are passed over
  have hleft : opensValue item.reverse = true ↔ item.reverse.dropWhile isBlank = [] ∨
      ∃ front, item.reverse.dropWhile isBlank = '=' :: front := by
    unfold opensValue
    cases item.reverse.dropWhile isBlank <;> simp
  have hblank : item.reverse.dropWhile isBlank = [] ↔ ∀ c ∈ item, isBlank c = true := by
    rw [← trimStart, trimStart_eq_nil_iff, allBlank, List.all_eq_true]
    simp only [List.mem_reverse]
  rw [hleft, hblank]
  refine or_congr_right ⟨?_, ?_⟩
  · rintro ⟨front, hfront⟩
    refine ⟨front.reverse, (item.reverse.takeWhile isBlank).reverse, ?_, ?_⟩
    · have hparts := List.takeWhile_append_dropWhile (p := isBlank) (l := item.reverse)
      rw [hfront, ← List.reverse_inj] at hparts
      simpa using hparts.symm
    · intro c hc
      exact List.all_eq_true.1 List.all_takeWhile c (List.mem_reverse.1 hc)
  · rintro ⟨front, blanks, rfl, hblanks⟩
    refine ⟨front.reverse, ?_⟩
    have hreverse : (front ++ '=' :: blanks).reverse = blanks.reverse ++ '=' :: front.reverse := by
      simp
    rw [hreverse, List.dropWhile_append_of_pos (by simpa using hblanks)]
    exact List.dropWhile_cons_of_neg (by decide)

theorem opens_iff : Opens item c ↔ isQuote c = true ∧ opensValue item.reverse = true :=
  and_congr isQuote_iff.symm opensValue_iff.symm

theorem Opens.ne_backslash (h : Opens item q) : q ≠ '\\' := by
  rcases h.1 with rfl | rfl <;> decide

/-- A backslash is paired with one that has no partner yet, and any other character leaves nothing
to be paired. -/
theorem paired_concat : Paired (inside ++ [c]) ↔ (c = '\\' → ¬ Paired inside) := by
  unfold Paired
  by_cases hc : c = '\\'
  · subst hc
    simp
    omega
  · simp [hc]

/-- Quotes stay open over a text if they do over its beginning, and the next character does not end
them. -/
theorem Unclosed.concat (h : Unclosed q inside) (hc : c = q → ¬ Paired inside) :
    Unclosed q (inside ++ [c]) := by
  intro front back hsplit
  rcases List.eq_nil_or_concat back with rfl | ⟨back, last, rfl⟩
  · obtain ⟨rfl, hlast⟩ := List.append_inj' hsplit rfl
    exact hc (List.head_eq_of_cons_eq hlast)
  · have hshort : inside ++ [c] = (front ++ q :: back) ++ [last] := by
      rw [hsplit]
      simp
    exact h front back (List.append_inj_left' hshort rfl)

/-! ## Whether quotes are open -/

/-- Whether no quotes are open after the beginning `text` of a list, whose last entry begins with
`item`. -/
inductive Outside : List Char → List Char → Prop
  | start : Outside [] []
  /-- A comma ends an entry. -/
  | comma {text item : List Char} (outside : Outside text item) : Outside (text ++ [',']) []
  /-- Any other character belongs to the entry, and opens no quotes. -/
  | plain {text item : List Char} {c : Char} (outside : Outside text item) (entry : c ≠ ',')
    (keeps : ¬ Opens item c) : Outside (text ++ [c]) (item ++ [c])
  /-- Quotes with their end belong to the entry. -/
  | quoted {text item inside : List Char} {q : Char} (outside : Outside text item)
    (opens : Opens item q) (unclosed : Unclosed q inside) (paired : Paired inside) :
    Outside (text ++ q :: inside ++ [q]) (item ++ q :: inside ++ [q])

/-- Whether quotes are open after the beginning of a list. -/
inductive Within : List Char → Prop
  | intro {text item inside : List Char} {q : Char} (outside : Outside text item)
    (opens : Opens item q) (unclosed : Unclosed q inside) : Within (text ++ q :: inside)

/-- After every beginning of a list quotes are open or not. -/
theorem outside_or_within (text : List Char) : (∃ item, Outside text item) ∨ Within text := by
  induction text using List.reverseRecOn with
  | nil => exact .inl ⟨[], .start⟩
  | append_singleton text c ih =>
    rcases ih with ⟨item, houtside⟩ | hwithin
    · by_cases hcomma : c = ','
      · subst hcomma
        exact .inl ⟨[], houtside.comma⟩
      by_cases hopens : Opens item c
      · exact .inr (.intro houtside hopens fun front back h => by simp at h)
      · exact .inl ⟨_, houtside.plain hcomma hopens⟩
    · obtain ⟨houtside, hopens, hunclosed⟩ := hwithin
      rename_i text item inside q
      by_cases hends : c = q ∧ Paired inside
      · obtain ⟨rfl, hpaired⟩ := hends
        exact .inl ⟨_, houtside.quoted hopens hunclosed hpaired⟩
      · refine .inr ?_
        rw [List.append_assoc, List.cons_append]
        exact .intro houtside hopens (hunclosed.concat fun hc hpaired => hends ⟨hc, hpaired⟩)

/-! ## Reading a list -/

/-- A character that is read belongs to the entry, or it is a comma outside of quotes, and ends it. -/
theorem entriesFrom_cons (before : List Char) (quote : Option Char) (escaped : Bool) (c : Char)
    (s : List Char) :
    (∃ quote' escaped', entriesFrom before quote escaped (c :: s) =
      entriesFrom (c :: before) quote' escaped' s) ∨
    quote = none ∧ c = ',' ∧
      entriesFrom before quote escaped (c :: s) = before.reverse :: entriesFrom [] none false s := by
  rw [entriesFrom.eq_def before quote escaped (c :: s)]
  dsimp only
  split
  · exact .inl ⟨_, _, rfl⟩
  split
  · split <;> exact .inl ⟨_, _, rfl⟩
  · split
    · exact .inl ⟨_, _, rfl⟩
    split
    · exact .inr ⟨rfl, eq_of_beq ‹_›, rfl⟩
    · exact .inl ⟨_, _, rfl⟩

/-- The first entry begins with what precedes the text that is read. -/
theorem exists_entriesFrom (before : List Char) (quote : Option Char) (escaped : Bool)
    (s : List Char) :
    ∃ more others, entriesFrom before quote escaped s = (before.reverse ++ more) :: others := by
  induction s generalizing before quote escaped with
  | nil => exact ⟨[], [], by rw [List.append_nil]; rfl⟩
  | cons c s ih =>
    rcases entriesFrom_cons before quote escaped c s with ⟨quote', escaped', h⟩ | ⟨-, -, h⟩
    · obtain ⟨more, others, hfirst⟩ := ih (c :: before) quote' escaped'
      exact ⟨c :: more, others, by rw [h, hfirst]; simp⟩
    · exact ⟨[], _, by rw [h, List.append_nil]⟩

theorem entriesFrom_ne_nil (before : List Char) (quote : Option Char) (escaped : Bool)
    (s : List Char) : entriesFrom before quote escaped s ≠ [] := by
  obtain ⟨more, others, h⟩ := exists_entriesFrom before quote escaped s
  rw [h]
  exact List.cons_ne_nil _ _

/-- The entries with commas between them are the text that is read, after what precedes it. -/
theorem joined_entriesFrom (before : List Char) (quote : Option Char) (escaped : Bool)
    (s : List Char) :
    joined [','] (entriesFrom before quote escaped s) = before.reverse ++ s := by
  induction s generalizing before quote escaped with
  | nil => exact (List.append_nil _).symm
  | cons c s ih =>
    rcases entriesFrom_cons before quote escaped c s with ⟨quote', escaped', h⟩ | ⟨-, rfl, h⟩
    · rw [h, ih, List.reverse_cons, List.append_assoc, List.singleton_append]
    · rw [h, joined_cons _ _ (entriesFrom_ne_nil [] none false s), ih]
      simp

/-- In quotes that no quote ends all characters are passed over. A backslash precedes what follows
just if the backslashes there do not stand in pairs. -/
theorem entriesFrom_unclosed {more : List Char} (h : Unclosed q (inside ++ more))
    (before rest : List Char) :
    entriesFrom before (some q) (!decide (Paired inside)) (more ++ rest) =
      entriesFrom (more.reverse ++ before) (some q) (!decide (Paired (inside ++ more))) rest := by
  induction more generalizing inside before with
  | nil => simp
  | cons c more ih =>
    have hstep : entriesFrom before (some q) (!decide (Paired inside)) (c :: (more ++ rest)) =
        entriesFrom (c :: before) (some q) (!decide (Paired (inside ++ [c]))) (more ++ rest) := by
      by_cases hpaired : Paired inside
      · have hother : c ≠ q := fun hc => h inside more (by rw [hc]) hpaired
        by_cases hc : c = '\\'
        · subst hc
          simp [hpaired, paired_concat, entriesFrom_backslash]
        · simp [hpaired, paired_concat, hc, entriesFrom_inside hc hother]
      · simp [hpaired, paired_concat, entriesFrom_afterBackslash]
    have hrest : Unclosed q ((inside ++ [c]) ++ more) := by
      rw [List.append_assoc]
      exact h
    rw [List.cons_append, hstep, ih hrest, List.append_assoc, List.reverse_cons, List.append_assoc]
    rfl

/-- From where quotes open they are read up to where they are still open. -/
theorem entriesFrom_opened (hopens : Opens item q) (h : Unclosed q inside) (rest : List Char) :
    entriesFrom item.reverse none false (q :: inside ++ rest) =
      entriesFrom (item ++ q :: inside).reverse (some q) (!decide (Paired inside)) rest := by
  obtain ⟨hquote, hvalue⟩ := opens_iff.1 hopens
  have hread := @entriesFrom_unclosed [] q inside h (q :: item.reverse) rest
  rw [List.cons_append, entriesFrom_open hquote hvalue]
  simpa [Paired] using hread

/-- The beginning of a list with no quotes open after it has its own entries, and reading goes on in
the last of them. -/
theorem Outside.exists_entries (h : Outside text item) :
    ∃ entries, text = joined [','] (entries ++ [item]) ∧
      ∀ rest, entriesFrom [] none false (text ++ rest) =
        entries ++ entriesFrom item.reverse none false rest := by
  induction h with
  | start => exact ⟨[], rfl, fun _ => rfl⟩
  | @comma text item _ ih =>
    obtain ⟨entries, htext, hread⟩ := ih
    refine ⟨entries ++ [item], ?_, fun rest => ?_⟩
    · rw [joined_append _ (by simp) (List.cons_ne_nil _ _), ← htext]
      exact (List.append_nil _).symm
    · rw [List.append_assoc, hread, List.singleton_append, entriesFrom_comma, List.reverse_reverse,
        List.append_assoc]
      rfl
  | @plain text item c _ entry keeps ih =>
    obtain ⟨entries, htext, hread⟩ := ih
    refine ⟨entries, by rw [joined_concat_append, ← htext], fun rest => ?_⟩
    have hquote : isQuote c = false ∨ opensValue item.reverse = false := by
      rw [opens_iff, not_and_or, Bool.not_eq_true, Bool.not_eq_true] at keeps
      exact keeps
    rw [List.append_assoc, hread, List.singleton_append, entriesFrom_outside hquote entry]
    simp
  | @quoted text item inside q _ opens unclosed paired ih =>
    obtain ⟨entries, htext, hread⟩ := ih
    refine ⟨entries, ?_, fun rest => ?_⟩
    · rw [List.append_assoc, List.append_assoc, joined_concat_append, ← htext]
    · -- the quotes are open up to their end, where the backslashes stand in pairs
      rw [List.append_assoc, List.append_assoc, hread, entriesFrom_opened opens unclosed,
        decide_eq_true paired, Bool.not_true, List.singleton_append,
        entriesFrom_close opens.ne_backslash]
      simp

/-- The beginning of a list with quotes open after it has its own entries, and reading goes on in
the quotes. -/
theorem Within.exists_entries (h : Within text) :
    ∃ entries item q escaped, text = joined [','] (entries ++ [item]) ∧
      ∀ rest, entriesFrom [] none false (text ++ rest) =
        entries ++ entriesFrom item.reverse (some q) escaped rest := by
  obtain ⟨houtside, hopens, hunclosed⟩ := h
  rename_i text item inside q
  obtain ⟨entries, htext, hread⟩ := houtside.exists_entries
  refine ⟨entries, item ++ q :: inside, q, !decide (Paired inside), ?_, fun rest => ?_⟩
  · rw [joined_concat_append, ← htext]
  · rw [List.append_assoc, hread, entriesFrom_opened hopens hunclosed]

/-! ## Where a list is cut -/

/-- Whether entries are cut apart at a comma between the texts `before` and `after`. -/
def SplitsAt (entries : List (List Char)) (before after : List Char) : Prop :=
  ∃ left right, left ≠ [] ∧ right ≠ [] ∧ entries = left ++ right ∧
    joined [','] left = before ∧ joined [','] right = after

/-- A list is cut at a comma after which no quotes are open. -/
theorem Outside.splitsAt (h : Outside before item) (after : List Char) :
    SplitsAt (entriesFrom [] none false (before ++ ',' :: after)) before after := by
  obtain ⟨entries, hbefore, hread⟩ := h.exists_entries
  refine ⟨entries ++ [item], _, by simp, entriesFrom_ne_nil [] none false after, ?_, hbefore.symm,
    joined_entriesFrom [] none false after⟩
  rw [hread, entriesFrom_comma, List.reverse_reverse, List.append_assoc]
  rfl

/-- More joined texts are longer. -/
theorem length_joined_lt {texts more : List (List Char)} (htexts : texts ≠ []) (hmore : more ≠ []) :
    (joined [','] texts).length < (joined [','] (texts ++ more)).length := by
  rw [joined_append _ htexts hmore]
  simp

theorem length_joined_le {texts : List (List Char)} (htexts : texts ≠ []) (more : List (List Char)) :
    (joined [','] texts).length ≤ (joined [','] (texts ++ more)).length := by
  by_cases hmore : more = []
  · simp [hmore]
  · exact Nat.le_of_lt (length_joined_lt htexts hmore)

/-- A list is not cut at a comma in quotes: the entry goes on over it. -/
theorem Within.not_splitsAt (h : Within before) (after : List Char) :
    ¬ SplitsAt (entriesFrom [] none false (before ++ ',' :: after)) before after := by
  obtain ⟨entries, item, q, escaped, hbefore, hread⟩ := h.exists_entries
  obtain ⟨quote, escaped', hcomma⟩ :=
    (entriesFrom_cons item.reverse (some q) escaped ',' after).resolve_right nofun
  obtain ⟨more, others, hfirst⟩ := exists_entriesFrom (',' :: item.reverse) quote escaped' after
  rw [hread, hcomma, hfirst, List.reverse_cons, List.reverse_reverse, List.append_assoc]
  rintro ⟨left, right, hleft, -, hentries, hjoined, -⟩
  rw [hbefore] at hjoined
  rcases List.append_eq_append_iff.1 hentries with ⟨inner, rfl, hinner⟩ | ⟨inner, rfl, -⟩
  · cases inner with
    | nil =>
      rw [List.append_nil] at hleft hjoined
      have hlt := length_joined_lt hleft (List.cons_ne_nil item [])
      rw [hjoined] at hlt
      exact Nat.lt_irrefl _ hlt
    | cons first inner =>
      -- what is cut off goes on after the comma
      obtain ⟨hlonger, -⟩ := List.cons.inj hinner
      have hle := length_joined_le (List.append_ne_nil_of_right_ne_nil entries
        (List.cons_ne_nil first [])) inner
      rw [List.append_assoc, List.singleton_append, hjoined, ← hlonger,
        joined_concat_append, List.length_append, List.singleton_append, List.length_cons] at hle
      omega
  · -- what is cut off ends before the entry begins
    have hlt := length_joined_lt hleft (List.append_ne_nil_of_right_ne_nil inner
      (List.cons_ne_nil item []))
    rw [hjoined, ← List.append_assoc] at hlt
    exact Nat.lt_irrefl _ hlt

/-- The entries of a list are all of them if something is in it that is not blank. -/
theorem topLevel_eq {s : List Char} (h : ∃ c ∈ s, isBlank c = false ∨ c = ',') :
    topLevel s = entriesFrom [] none false s := by
  obtain ⟨c, hc, hsolid⟩ := h
  have hc' : isBlank c = false := by
    rcases hsolid with hsolid | rfl
    · exact hsolid
    · decide
  have hjoined := joined_entriesFrom [] none false s
  unfold topLevel
  split
  · rename_i entry hentry
    rw [hentry] at hjoined ⊢
    obtain rfl : entry = s := hjoined
    refine if_neg fun hblank => ?_
    rw [List.all_eq_true.1 hblank c hc] at hc'
    cases hc'
  · rfl

/-- The entries of a list with commas between them are the list. It is cut just at the commas outside
of quotes. -/
theorem topLevel_splitsAt_iff {s : List Char} (h : ∃ c ∈ s, isBlank c = false ∨ c = ',') :
    joined [','] (topLevel s) = s ∧
      ∀ before after, s = before ++ ',' :: after →
        (SplitsAt (topLevel s) before after ↔ ∃ item, Outside before item) ∧
          (¬ SplitsAt (topLevel s) before after ↔ Within before) := by
  rw [topLevel_eq h]
  refine ⟨joined_entriesFrom [] none false s, ?_⟩
  rintro before after rfl
  have houtside : (∃ item, Outside before item) →
      SplitsAt (entriesFrom [] none false (before ++ ',' :: after)) before after :=
    fun ⟨_, h⟩ => h.splitsAt after
  have hwithin : Within before →
      ¬ SplitsAt (entriesFrom [] none false (before ++ ',' :: after)) before after :=
    fun h => h.not_splitsAt after
  refine ⟨⟨fun hsplits => ?_, houtside⟩, ⟨fun hnot => ?_, hwithin⟩⟩
  · exact (outside_or_within before).resolve_right fun h => hwithin h hsplits
  · exact (outside_or_within before).resolve_left fun h => hnot (houtside h)

/-- A list with a comma and an escaped quote in quotes, and with quotes at its end that nothing ends:
it is cut between its entries only. -/
theorem topLevel_splitsAt_iff_unclosed :
    let first := "a=\"x,\\\",\"".toList
    let second := "b='y,z".toList
    let s := first ++ ',' :: second
    (∃ c ∈ s, isBlank c = false ∨ c = ',') ∧ topLevel s = [first, second] ∧
      joined [','] (topLevel s) = s ∧ (∃ item, Outside first item) ∧
      Within "a=\"x,\\\"".toList ∧ Within (first ++ ",b='y".toList) := by
  intro first second s
  have hsolid : ∃ c ∈ s, isBlank c = false ∨ c = ',' := ⟨'a', by decide, by decide⟩
  have htop : topLevel s = [first, second] := by decide
  obtain ⟨hjoined, hcommas⟩ := topLevel_splitsAt_iff hsolid
  have hsplits : SplitsAt (topLevel s) first second :=
    ⟨[first], [second], by simp, by simp, htop, rfl, rfl⟩
  -- two entries are cut apart in one place
  have honce : ∀ before after, SplitsAt (topLevel s) before after → before = first := by
    rintro before after ⟨left, right, hleft, hright, hentries, rfl, -⟩
    rw [htop] at hentries
    obtain ⟨entry, left, rfl⟩ := List.exists_cons_of_ne_nil hleft
    obtain ⟨last, right, rfl⟩ := List.exists_cons_of_ne_nil hright
    obtain ⟨rfl, hrest⟩ := List.cons.inj hentries
    cases left with
    | nil => rfl
    | cons next left => simp at hrest
  refine ⟨hsolid, htop, hjoined, (hcommas _ _ rfl).1.1 hsplits, ?_, ?_⟩
  · refine (hcommas _ (['"', ','] ++ second) (by decide)).2.1 fun h => ?_
    exact absurd (honce _ _ h) (by decide)
  · refine (hcommas _ ['z'] (by decide)).2.1 fun h => ?_
    exact absurd (honce _ _ h) (by decide)

end Transclude.AttrList
