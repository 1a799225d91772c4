import Transclude.Condition.Expression
import Transclude.Proofs.LineSets

/-!
# The laws of comparisons

Two operands with a comparison between them are read as these operands and this comparison. Each
operand then has a value of some kind, and the six comparisons of two values are tied to each other:
values of different kinds only differ, null equals null and has no order, and of two other values of
one kind just one is less, or they are equal. Nothing but a number that is refused keeps a
comparison from having an answer.

## Main definitions

* `Expression.written` : two operands with a comparison between them.
* `Operand.Refused`    : whether the number in an operand is refused.
* `Operand.Laws`       : what the answers to the six comparisons have to do with each other.

## Main statements

* `Expression.ofText?_written` : what is written is read.
* `Operand.exists_value_iff`   : an operand has a value unless its number is refused.
* `Expression.evaluate_laws`   : the answers to comparisons that are written.
-/

namespace Transclude

open Transclude.Text

/-! ## Comparisons that are written -/

/-- A comparison as it is written. -/
def Relation.symbol : Relation → List Char
  | .eq => ['=', '=']
  | .ne => ['!', '=']
  | .lt => ['<']
  | .le => ['<', '=']
  | .gt => ['>']
  | .ge => ['>', '=']

/-- Whether a text starts with a comparison. -/
def Relation.Starts (s : List Char) : Prop := ∃ relation : Relation, relation.symbol <+: s

/-- Whether a text may be the end of an operand beside a comparison: it is not empty, no blank is at
its end, and no line feed and no character of a comparison is in it. -/
structure Operand.EndsBare (s : List Char) : Prop where
  ne_nil : s ≠ []
  last : ∀ c ∈ s.getLast?, isBlank c = false
  free : ∀ c ∈ s, c ∉ ['\n', '=', '!', '<', '>']

/-- Whether a text may be an operand beside a comparison: it may be the end of one, and no blank is
at its start. -/
structure Operand.IsBare (s : List Char) : Prop extends Operand.EndsBare s where
  first : ∀ c ∈ s.head?, isBlank c = false

theorem Operand.isBare_iff {s : List Char} :
    IsBare s ↔ s ≠ [] ∧ s.getLast?.all (!isBlank ·) = true ∧
      s.all (· ∉ ['\n', '=', '!', '<', '>']) = true ∧ s.head?.all (!isBlank ·) = true := by
  simp only [Option.all_eq_true, List.all_eq_true, Bool.not_eq_true', decide_eq_true_eq]
  exact ⟨fun h => ⟨h.ne_nil, h.last, h.free, h.first⟩,
    fun ⟨hne, hlast, hfree, hfirst⟩ => ⟨⟨hne, hlast, hfree⟩, hfirst⟩⟩

instance (s : List Char) : Decidable (Operand.IsBare s) := decidable_of_iff' _ Operand.isBare_iff

/-- No comparison starts in an operand. -/
theorem Operand.EndsBare.not_starts {operand : List Char} (h : EndsBare operand)
    (rest : List Char) : ∀ s, s <:+ operand → s ≠ [] → ¬ Relation.Starts (s ++ rest) := by
  rintro s hs hne ⟨relation, hstart⟩
  obtain ⟨c, s, rfl⟩ := List.exists_cons_of_ne_nil hne
  have hc : c ∉ ['\n', '=', '!', '<', '>'] := h.free c (hs.subset List.mem_cons_self)
  cases relation <;>
    (obtain ⟨rfl, -⟩ := List.cons_prefix_cons.1 hstart; exact hc (by decide))

namespace Expression

/-- Two operands with a comparison between them, and with some spaces before and after it. -/
def written (left : String) (relation : Relation) (right : String) (before after : Nat) : String :=
  String.ofList (left.toList ++ (List.replicate before ' ' ++ (relation.symbol ++
    (List.replicate after ' ' ++ right.toList))))

theorem dropWhile_spaces (n : Nat) {s : List Char} (h : ∀ c ∈ s.head?, c ≠ ' ') :
    (List.replicate n ' ' ++ s).dropWhile (· == ' ') = s := by
  have hspaces : ∀ c ∈ List.replicate n ' ', (c == ' ') = true := fun c hc =>
    beq_iff_eq.2 (List.eq_of_mem_replicate hc)
  rw [List.dropWhile_append_of_pos hspaces]
  cases s with
  | nil => rfl
  | cons c rest =>
    have hc : c ≠ ' ' := h c rfl
    exact List.dropWhile_cons_of_neg (by simpa using hc)

/-- No comparison of two characters is read where only those of one character start. -/
theorem wideRelation?_eq_none {s : List Char}
    (h : ∀ relation : Relation, relation.symbol <+: s → relation.symbol.length < 2) :
    wideRelation? s = none := by
  unfold wideRelation?
  split
  · exact absurd (h .eq ⟨_, rfl⟩) (by decide)
  · exact absurd (h .ne ⟨_, rfl⟩) (by decide)
  · exact absurd (h .le ⟨_, rfl⟩) (by decide)
  · exact absurd (h .ge ⟨_, rfl⟩) (by decide)
  · rfl

/-- No comparison is read where none starts after the spaces. -/
theorem tail?_eq_none {s : List Char} (h : ¬ Relation.Starts (s.dropWhile (· == ' '))) :
    tail? s = none := by
  unfold tail?
  dsimp only
  rw [wideRelation?_eq_none fun relation hstart => absurd ⟨relation, hstart⟩ h]
  have hnarrow : narrowRelation? (s.dropWhile (· == ' ')) = none := by
    unfold narrowRelation?
    split
    · rename_i heq
      exact absurd ⟨.lt, ⟨_, heq.symm⟩⟩ h
    · rename_i heq
      exact absurd ⟨.gt, ⟨_, heq.symm⟩⟩ h
    · rfl
  rw [hnarrow]
  rfl

/-- A comparison after some spaces is read with the operand after it, unless it is the beginning of
a longer one. -/
theorem tail?_symbol {relation : Relation} {s right : List Char}
    (hlongest : ∀ other : Relation, other.symbol <+: relation.symbol ++ s →
      other.symbol <+: relation.symbol)
    (hright : rightOf? s = some right) (before : Nat) :
    tail? (List.replicate before ' ' ++ (relation.symbol ++ s)) = some (relation, right) := by
  have hsymbol : ∀ c ∈ (relation.symbol ++ s).head?, c ≠ ' ' := by
    cases relation <;> (rintro c ⟨⟩; decide)
  -- only a comparison of one character could be the beginning of another
  have hwide : relation.symbol.length < 2 → wideRelation? (relation.symbol ++ s) = none :=
    fun hshort => wideRelation?_eq_none fun other hother =>
      (hlongest other hother).length_le.trans_lt hshort
  rw [tail?, dropWhile_spaces before hsymbol]
  cases relation with
  | eq | ne | le | ge => simp [Relation.symbol, wideRelation?, hright]
  | lt | gt =>
    have hnone := hwide (by decide)
    simp only [Relation.symbol, List.cons_append, List.nil_append] at hnone ⊢
    simp [hnone, narrowRelation?, hright]

/-- What follows the spaces after a comparison is the right operand, if there is something and all
is on one line. -/
theorem rightOf?_eq {s : List Char} (hne : s.dropWhile (· == ' ') ≠ []) (hbreak : '\n' ∉ s) :
    rightOf? s = some (s.dropWhile (· == ' ')) := by
  have hinside : '\n' ∉ s.dropWhile (· == ' ') := fun hmem =>
    hbreak ((List.dropWhile_suffix _).subset hmem)
  unfold rightOf?
  simp [hne, hinside]

/-- The left operand of an expression is all that stands before the spaces and the first comparison
in it. -/
theorem splitAfter?_append {operand rest right : List Char} {relation : Relation}
    (hne : operand ≠ []) (hlast : ∀ c ∈ operand.getLast?, c ≠ ' ') (hbreak : '\n' ∉ operand)
    (hsilent : ∀ s, s <:+ operand → s ≠ [] → ¬ Relation.Starts (s ++ rest))
    (htail : tail? rest = some (relation, right)) (read : List Char) :
    splitAfter? read (operand ++ rest) = some (read.reverse ++ operand, relation, right) := by
  induction operand generalizing read with
  | nil => exact absurd rfl hne
  | cons c operand ih =>
    have hc : ¬ (c == '\n') = true := fun h => hbreak (eq_of_beq h ▸ List.mem_cons_self)
    rw [List.cons_append, splitAfter?, if_neg hc]
    by_cases hend : operand = []
    · simp [hend, htail]
    · -- the operand goes on, so no comparison is read here
      have hlater : ∀ x ∈ operand.getLast?, x ≠ ' ' := fun x hx =>
        hlast x (by rwa [List.getLast?_cons_of_ne_nil hend])
      have hnone : tail? (operand ++ rest) = none := by
        have hdrop : operand.dropWhile (· == ' ') ≠ [] := fun hnil => by
          have hspaces := List.dropWhile_eq_nil_iff.1 hnil _ (List.getLast_mem hend)
          exact hlater _ (List.getLast?_eq_some_getLast hend) (eq_of_beq hspaces)
        refine tail?_eq_none ?_
        rw [List.dropWhile_append, if_neg (by simpa using hdrop)]
        exact hsilent _ ((List.dropWhile_suffix _).trans (List.suffix_cons c operand)) hdrop
      rw [hnone]
      dsimp only
      rw [ih hend hlater (fun h => hbreak (.tail c h))
        (fun s hs => hsilent s (hs.trans (List.suffix_cons c operand)))]
      simp

theorem rightOf?_bare {operand : List Char} (h : Operand.IsBare operand) (n : Nat) :
    rightOf? (List.replicate n ' ' ++ operand) = some operand := by
  have hspace : ∀ c ∈ operand.head?, c ≠ ' ' := by
    rintro c hc rfl
    exact absurd (h.first _ hc) (by decide)
  have hdrop := dropWhile_spaces n hspace
  have hbreak : '\n' ∉ List.replicate n ' ' ++ operand := fun hmem => by
    rcases List.mem_append.1 hmem with hmem | hmem
    · exact absurd (List.eq_of_mem_replicate hmem) (by decide)
    · exact h.free _ hmem List.mem_cons_self
  rw [rightOf?_eq (by rw [hdrop]; exact h.ne_nil) hbreak, hdrop]

/-- Only an equals sign after a comparison could make it longer. -/
theorem longest_of_head (relation : Relation) {s : List Char} (h : ∀ c ∈ s.head?, c ≠ '=') :
    ∀ other : Relation, other.symbol <+: relation.symbol ++ s →
      other.symbol <+: relation.symbol := by
  intro other hother
  cases s with
  | nil => rwa [List.append_nil] at hother
  | cons c s =>
    have hc : c ≠ '=' := h c rfl
    revert hother
    cases relation <;> cases other <;> simp [Relation.symbol, hc.symm]

theorem head_of_bare {operand : List Char} (h : Operand.IsBare operand) (n : Nat) :
    ∀ c ∈ (List.replicate n ' ' ++ operand).head?, c ≠ '=' := by
  cases n with
  | zero =>
    rintro c hc rfl
    exact h.free _ (List.mem_of_mem_head? hc) (by decide)
  | succ n =>
    rintro c ⟨⟩
    decide

/-- A text is read as the operand before its first comparison, this comparison, and the operand
after it. -/
theorem ofText?_append {left rest right : List Char} {relation : Relation}
    (htrim : trim (left ++ rest) = left ++ rest) (hne : left ≠ [])
    (hlast : ∀ c ∈ left.getLast?, c ≠ ' ') (hbreak : '\n' ∉ left)
    (hsilent : ∀ s, s <:+ left → s ≠ [] → ¬ Relation.Starts (s ++ rest))
    (htail : tail? rest = some (relation, right)) :
    ofText? (left ++ rest) = some ⟨String.ofList left, relation, String.ofList right⟩ := by
  rw [ofText?, htrim, splitAfter?_append hne hlast hbreak hsilent htail]
  rfl

/-- A text that is read is evaluated by comparing the values of its operands. -/
theorem evaluate_of_ofText? (a : AttributeSet) {text : String} {e : Expression}
    (h : ofText? text.toList = some e) :
    evaluate a (some text) =
      match Operand.ofText a e.left, Operand.ofText a e.right with
      | .ok l, .ok r => .ok (Operand.holds e.relation l r)
      | .error problem, _ | .ok _, .error problem => .error (.numeral problem) := by
  have hblank : ¬ allBlank text.toList = true := fun hblank => by
    have hnone : trim text.toList = [] := by
      rw [trim, trimStart_eq_nil_iff.2 hblank]
      rfl
    rw [ofText?, hnone] at h
    cases h
  rw [evaluate, if_neg hblank]
  generalize ofText? text.toList = found at h
  subst h
  rfl

section

variable {left right : String} (hleft : Operand.IsBare left.toList)
  (hright : Operand.IsBare right.toList)
include hleft hright

/-- What is written is read. -/
theorem ofText?_written (relation : Relation) (before after : Nat) :
    ofText? (written left relation right before after).toList = some ⟨left, relation, right⟩ := by
  have htrim : trim (written left relation right before after).toList =
      (written left relation right before after).toList := by
    rw [written, String.toList_ofList]
    refine trim_eq_self_iff.2 ⟨trimStart_eq_self_iff.2 ?_, trimEnd_eq_self_iff.2 ?_⟩
    · rw [List.head?_append, List.head?_eq_some_head hleft.ne_nil, Option.some_or,
        ← List.head?_eq_some_head]
      exact hleft.first
    · simp only [← List.append_assoc]
      rw [List.getLast?_append, List.getLast?_eq_some_getLast hright.ne_nil, Option.some_or,
        ← List.getLast?_eq_some_getLast]
      exact hright.last
  have hspace : ∀ c ∈ left.toList.getLast?, c ≠ ' ' := by
    rintro c hc rfl
    exact absurd (hleft.last _ hc) (by decide)
  have htail := tail?_symbol (longest_of_head relation (head_of_bare hright after))
    (rightOf?_bare hright after) before
  rw [written, String.toList_ofList] at htrim ⊢
  rw [ofText?_append htrim hleft.ne_nil hspace
    (fun hmem => hleft.free _ hmem List.mem_cons_self) (hleft.not_starts _) htail,
    String.ofList_toList, String.ofList_toList]

/-- What is written is evaluated by comparing the values of the operands. -/
theorem evaluate_written (a : AttributeSet) (relation : Relation) (before after : Nat) :
    evaluate a (some (written left relation right before after)) =
      match Operand.ofText a left, Operand.ofText a right with
      | .ok l, .ok r => .ok (Operand.holds relation l r)
      | .error problem, _ | .ok _, .error problem => .error (.numeral problem) := by
  rw [evaluate_of_ofText? a (ofText?_written hleft hright relation before after)]

end

end Expression

/-! ## Values of operands -/

namespace Number

/-- Whether the double that a text starts with is refused: an information separator stands before
it. -/
def RealRefused (s : List Char) : Prop :=
  (realPrefix? (trimStart s)).isSome = true ∧ (s.takeWhile isBlank).any isSeparator = true

instance (s : List Char) : Decidable (RealRefused s) := inferInstanceAs (Decidable (_ ∧ _))

theorem exists_leadingReal_iff {s : List Char} :
    (∃ x, leadingReal s = .ok x) ↔ ¬ RealRefused s := by
  unfold leadingReal RealRefused
  cases realPrefix? (trimStart s) with
  | none => simp
  | some found =>
    obtain ⟨x, rest⟩ := found
    dsimp only
    split <;> rename_i hseparated <;> simp [hseparated]

theorem exists_leadingInt_iff {s : List Char} :
    (∃ i, leadingInt s = .ok i) ↔ ¬ Refused s := by
  by_cases h : Refused s
  · obtain ⟨e, he⟩ := exists_error_of_refused h
    simp [he, h]
  · exact ⟨fun _ => h, fun _ => ⟨_, leadingInt_of_not_refused h⟩⟩

end Number

namespace Operand

/-- Whether the number that a text without quotes starts with is refused. With a point somewhere it
is a double, and an integer without one. -/
def PlainRefused (s : List Char) : Prop :=
  if '.' ∈ s then Number.RealRefused s else Number.Refused s

instance (s : List Char) : Decidable (PlainRefused s) := by
  unfold PlainRefused
  infer_instance

/-- Whether the number in an operand is refused. There is none in quotes, and references are
replaced first. -/
def Refused (a : AttributeSet) (raw : String) : Prop :=
  unquoted? (trim raw.toList) = none ∧ PlainRefused
    (a.substitute (String.ofList (trim raw.toList)) (some "drop")).text.toList

instance (a : AttributeSet) (raw : String) : Decidable (Refused a raw) :=
  inferInstanceAs (Decidable (_ ∧ _))

/-- A blank text has no number. -/
theorem not_plainRefused_of_blank {s : List Char} (h : allBlank s = true) : ¬ PlainRefused s := by
  have hpoint : '.' ∉ s := fun hmem =>
    absurd (List.all_eq_true.1 h '.' hmem) (by decide)
  rw [PlainRefused, if_neg hpoint]
  intro hrefused
  rw [LineRange.not_blank_of_refused hrefused] at h
  cases h

theorem exists_plain_iff {s : List Char} : (∃ v, plain s = .ok v) ↔ ¬ PlainRefused s := by
  unfold plain
  -- the texts that are no numbers are not refused
  split
  · rename_i hempty
    rw [List.isEmpty_iff.1 hempty]
    exact ⟨fun _ => by decide, fun _ => ⟨_, rfl⟩⟩
  split
  · rename_i htrue
    rw [eq_of_beq htrue]
    exact ⟨fun _ => by decide, fun _ => ⟨_, rfl⟩⟩
  split
  · rename_i hfalse
    rw [eq_of_beq hfalse]
    exact ⟨fun _ => by decide, fun _ => ⟨_, rfl⟩⟩
  split
  · rename_i hblank
    exact ⟨fun _ => not_plainRefused_of_blank hblank, fun _ => ⟨_, rfl⟩⟩
  split
  · rename_i hpoint
    rw [PlainRefused, if_pos (List.contains_iff_mem.1 hpoint), ← Number.exists_leadingReal_iff]
    cases Number.leadingReal s <;> simp [Except.map]
  · rename_i hpoint
    rw [PlainRefused, if_neg fun hmem => hpoint (List.contains_iff_mem.2 hmem),
      ← Number.exists_leadingInt_iff]
    cases Number.leadingInt s <;> simp [Except.map]

/-- An operand has a value just if no number in it is refused. -/
theorem exists_value_iff {a : AttributeSet} {raw : String} :
    (∃ v, ofText a raw = .ok v) ↔ ¬ Refused a raw := by
  unfold ofText Refused
  dsimp only
  cases unquoted? (trim raw.toList) with
  | some inner => simp
  | none =>
    dsimp only
    rw [exists_plain_iff]
    simp

end Operand

/-! ## The order of values -/

/-- The comparison that says the same with the operands exchanged. -/
def Relation.converse : Relation → Relation
  | .eq => .eq
  | .ne => .ne
  | .lt => .gt
  | .le => .ge
  | .gt => .lt
  | .ge => .le

theorem Relation.admits_converse (relation : Relation) (o : Ordering) :
    relation.converse.admits o.swap = relation.admits o := by
  cases relation <;> cases o <;> rfl

namespace Operand

/-- The kinds of values. Integers and doubles are one kind. -/
inductive Kind
  | null
  | bool
  | number
  | text
  deriving DecidableEq, Repr

/-- The kind of a value. -/
def kind : Operand → Kind
  | .null => .null
  | .bool _ => .bool
  | .int _ => .number
  | .real _ => .number
  | .text _ => .text

/-- What the answers to the six comparisons of two values have to do with each other. -/
structure Laws (l r : Operand) (answer : Relation → Bool) : Prop where
  ne : answer .ne = !answer .eq
  apart : l.kind ≠ r.kind → ∀ relation, relation ≠ .ne → answer relation = false
  null : l.kind = .null → r.kind = .null →
    answer .eq = true ∧ ∀ relation ∈ [.lt, .le, .gt, .ge], answer relation = false
  one : l.kind = r.kind → l.kind ≠ .null → [answer .lt, answer .eq, answer .gt].count true = 1
  le : l.kind = r.kind → l.kind ≠ .null → answer .le = (answer .lt || answer .eq)
  ge : l.kind = r.kind → l.kind ≠ .null → answer .ge = (answer .gt || answer .eq)

/-- Values of one kind have an order, unless they are null. -/
theorem isSome_order?_iff {l r : Operand} :
    (l.order? r).isSome = true ↔ l.kind = r.kind ∧ l.kind ≠ .null := by
  cases l <;> cases r <;> simp [order?, number?, kind]

theorem map_swap_order? (l r : Operand) : (l.order? r).map Ordering.swap = r.order? l := by
  cases l <;> cases r <;>
    simp [order?, number?, Extended.swap_compare, ← Std.OrientedOrd.eq_swap]

theorem holds_of_order? {l r : Operand} {o : Ordering} (h : l.order? r = some o)
    (relation : Relation) : holds relation l r = relation.admits o := by
  unfold holds
  split
  · cases h
  · rw [h]

theorem holds_of_apart {l r : Operand} (h : l.kind ≠ r.kind) (relation : Relation) :
    holds relation l r = (relation == .ne) := by
  have hnone : l.order? r = none := by
    rw [← Option.not_isSome_iff_eq_none, isSome_order?_iff]
    exact fun hsame => h hsame.1
  unfold holds
  split
  · exact absurd rfl h
  · rw [hnone]

theorem kind_eq_null_iff {v : Operand} : v.kind = .null ↔ v = .null := by
  cases v <;> simp [kind]

/-- Two values are both null, or have an order, or are of different kinds. -/
theorem null_or_ordered_or_apart (l r : Operand) :
    l = .null ∧ r = .null ∨
      (∃ o, l.order? r = some o ∧ l.kind = r.kind ∧ l.kind ≠ .null) ∨ l.kind ≠ r.kind := by
  by_cases hkind : l.kind = r.kind
  · by_cases hnull : l.kind = .null
    · exact .inl ⟨kind_eq_null_iff.1 hnull, kind_eq_null_iff.1 (hkind ▸ hnull)⟩
    · obtain ⟨o, ho⟩ := Option.isSome_iff_exists.1 (isSome_order?_iff.2 ⟨hkind, hnull⟩)
      exact .inr (.inl ⟨o, ho, hkind, hnull⟩)
  · exact .inr (.inr hkind)

/-- Exchanging two values exchanges less and greater. -/
theorem holds_converse (relation : Relation) (l r : Operand) :
    holds relation.converse r l = holds relation l r := by
  rcases null_or_ordered_or_apart l r with ⟨rfl, rfl⟩ | ⟨o, ho, -, -⟩ | hapart
  · cases relation <;> rfl
  · have hswap : r.order? l = some o.swap := by
      rw [← map_swap_order?, ho]
      rfl
    rw [holds_of_order? hswap, holds_of_order? ho, Relation.admits_converse]
  · rw [holds_of_apart hapart, holds_of_apart (Ne.symm hapart)]
    cases relation <;> rfl

/-- The answers to comparisons follow the laws. -/
theorem laws_holds (l r : Operand) : Laws l r fun relation => holds relation l r := by
  rcases null_or_ordered_or_apart l r with ⟨rfl, rfl⟩ | ⟨o, ho, hkind, hnull⟩ | hapart
  · exact
      { ne := rfl
        apart := fun h => absurd rfl h
        null := fun _ _ => by decide
        one := fun _ h => absurd rfl h
        le := fun _ h => absurd rfl h
        ge := fun _ h => absurd rfl h }
  · -- the order of the two values gives all six answers
    have hholds : (fun relation => holds relation l r) = fun relation => relation.admits o :=
      funext (holds_of_order? ho)
    rw [hholds]
    exact
      { ne := by cases o <;> rfl
        apart := fun h => absurd hkind h
        null := fun h => absurd h hnull
        one := fun _ _ => by cases o <;> rfl
        le := fun _ _ => by cases o <;> rfl
        ge := fun _ _ => by cases o <;> rfl }
  · have hholds : (fun relation => holds relation l r) = fun relation => relation == .ne :=
      funext (holds_of_apart hapart)
    rw [hholds]
    exact
      { ne := rfl
        apart := fun _ _ hne => beq_eq_false_iff_ne.2 hne
        null := fun hl hr => absurd (hl.trans hr.symm) hapart
        one := fun h => absurd h hapart
        le := fun h => absurd h hapart
        ge := fun h => absurd h hapart }

end Operand

/-! ## The answers -/

/-- A comparison of two operands has an answer unless a number in one of them is refused, and then
no comparison of them has one. The answers follow the laws of comparisons of the values, and the
comparison of the operands in the other order has the same answer. -/
theorem Expression.evaluate_laws (a : AttributeSet) {left right : String}
    (hleft : Operand.IsBare left.toList) (hright : Operand.IsBare right.toList)
    (before after : Nat) :
    (Operand.Refused a left ∨ Operand.Refused a right → ∀ relation, ∃ problem,
        evaluate a (some (written left relation right before after)) =
          .error (.numeral problem)) ∧
      (¬ Operand.Refused a left → ¬ Operand.Refused a right → ∃ l r answer,
        Operand.ofText a left = .ok l ∧ Operand.ofText a right = .ok r ∧
        (∀ relation, evaluate a (some (written left relation right before after)) =
            .ok (answer relation) ∧
          evaluate a (some (written right relation.converse left before after)) =
            .ok (answer relation)) ∧
        Operand.Laws l r answer) := by
  constructor
  · intro hrefused relation
    rw [evaluate_written hleft hright]
    cases hl : Operand.ofText a left with
    | error problem => exact ⟨problem, rfl⟩
    | ok l =>
      cases hr : Operand.ofText a right with
      | error problem => exact ⟨problem, rfl⟩
      | ok r =>
        rcases hrefused with hrefused | hrefused
        · exact absurd hrefused (Operand.exists_value_iff.1 ⟨l, hl⟩)
        · exact absurd hrefused (Operand.exists_value_iff.1 ⟨r, hr⟩)
  · intro hl hr
    obtain ⟨l, hl⟩ := Operand.exists_value_iff.2 hl
    obtain ⟨r, hr⟩ := Operand.exists_value_iff.2 hr
    refine ⟨l, r, fun relation => Operand.holds relation l r, hl, hr, fun relation => ⟨?_, ?_⟩,
      Operand.laws_holds l r⟩
    · rw [evaluate_written hleft hright, hl, hr]
    · rw [evaluate_written hright hleft, hl, hr]
      exact congrArg Except.ok (Operand.holds_converse relation l r)

/-- A reference to a double beside an integer: of the values 1.5 and 2 the first is less. -/
theorem Expression.evaluate_laws_numbers :
    let a : AttributeSet := { values := [("x", "1.5")] }
    Operand.IsBare "{x}".toList ∧ Operand.IsBare "2".toList ∧
      ¬ Operand.Refused a "{x}" ∧ ¬ Operand.Refused a "2" ∧ ∃ l r answer,
        Operand.ofText a "{x}" = .ok l ∧ Operand.ofText a "2" = .ok r ∧
          evaluate a (some "{x} < 2") = .ok (answer .lt) ∧
          evaluate a (some "2 > {x}") = .ok (answer .lt) ∧
          Operand.Laws l r answer ∧ answer .lt = true := by
  intro a
  have hleft : Operand.IsBare "{x}".toList := by decide
  have hright : Operand.IsBare "2".toList := by decide
  have hdouble : ¬ Operand.Refused a "{x}" := by decide +kernel
  have hinteger : ¬ Operand.Refused a "2" := by decide +kernel
  obtain ⟨-, hanswers⟩ := evaluate_laws a hleft hright 1 1
  obtain ⟨l, r, answer, hl, hr, hevaluate, hlaws⟩ := hanswers hdouble hinteger
  obtain ⟨hless, hgreater⟩ := hevaluate .lt
  have htrue : (evaluate a (some "{x} < 2")).toOption = some true := by decide +kernel
  refine ⟨hleft, hright, hdouble, hinteger, l, r, answer, hl, hr, hless, hgreater, hlaws, ?_⟩
  have hwritten : evaluate a (some "{x} < 2") = .ok (answer .lt) := hless
  rw [hwritten] at htrue
  exact Option.some.inj htrue

/-- An operand that is a reference to the empty text, an information separator and a double: no
comparison with it has an answer, although it may stand beside one. -/
theorem Expression.evaluate_laws_separator :
    let a : AttributeSet := { values := AttributeSet.builtin }
    Operand.IsBare "{empty}\x1c5.0".toList ∧ Operand.IsBare "5".toList ∧
      ¬ ∃ answer, evaluate a (some "{empty}\x1c5.0 == 5") = .ok answer := by
  intro a
  refine ⟨by decide, by decide, ?_⟩
  have hnone : (evaluate a (some "{empty}\x1c5.0 == 5")).toOption = none := by decide +kernel
  rintro ⟨answer, hanswer⟩
  rw [hanswer] at hnone
  cases hnone

end Transclude
