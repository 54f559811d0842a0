import Mathlib.Data.List.Infix

/-!
# Lines and fences

A list of symbols is cut into lines at a separator. A fenced document is a head, an opening line, a body, and a closing
line, which must be the only ones of their kind.

* `splitOn_intercalate_lines` : the lines of a document are those of its parts;
* `Fenced`, `fenced_iff` : a document is fenced when its body holds neither delimiter;
* `Followed` : what stands behind each separator, and `head_of_mem_tail`: it begins the later lines.
-/

namespace Lib

/-! ## Lines -/

section Lines
variable {α : Type} [BEq α] [LawfulBEq α] {sep : α}

theorem splitOn_intercalate_lines {parts : List (List α)} (h : parts ≠ []) :
    ([sep].intercalate parts).splitOn sep = parts.flatMap (List.splitOn sep) := by
  induction parts with
  | nil => exact absurd rfl h
  | cons part rest ih =>
    cases rest with
    | nil => simp
    | cons part' rest =>
      rw [List.intercalate_cons_cons, List.append_assoc, List.singleton_append,
        List.splitOn_append_cons_self, ih (List.cons_ne_nil _ _)]
      rfl

theorem splitOn_append_of_notMem {before : List α} (h : sep ∉ before) (rest : List α) :
    (before ++ rest).splitOn sep = (rest.splitOn sep).modifyHead (before ++ ·) := by
  induction before with
  | nil =>
    show rest.splitOn sep = (rest.splitOn sep).modifyHead id
    rw [List.modifyHead_id, id]
  | cons c before ih =>
    have hc : (c == sep) = false := beq_false_of_ne fun heq => h (heq ▸ List.mem_cons_self)
    rw [List.cons_append, List.splitOn_cons_eq_if_modifyHead, hc, ih fun hmem => h (List.mem_cons_of_mem c hmem)]
    simp [List.modifyHead_modifyHead]
    rfl

theorem head_splitOn_prefix {doc first : List α} {later : List (List α)} (h : doc.splitOn sep = first :: later) :
    first <+: doc := by
  have hdoc : [sep].intercalate (first :: later) = doc := by
    rw [← h]
    exact List.intercalate_splitOn sep
  cases later with
  | nil =>
    rw [← hdoc, List.intercalate_singleton]
  | cons second later =>
    rw [← hdoc, List.intercalate_cons_cons, List.append_assoc]
    exact List.prefix_append _ _

theorem exists_of_mem_tail {doc line : List α} (h : line ∈ (doc.splitOn sep).tail) :
    ∃ before after, doc = before ++ sep :: (line ++ after) := by
  induction doc with
  | nil => simp at h
  | cons c doc ih =>
    rw [List.splitOn_cons_eq_if_modifyHead] at h
    split at h
    · rename_i hc
      obtain rfl := eq_of_beq hc
      obtain ⟨first, later, hlines⟩ := List.exists_cons_of_ne_nil (List.splitOn_ne_nil c doc)
      rw [List.tail_cons, hlines] at h
      rcases List.mem_cons.mp h with rfl | hlater
      · obtain ⟨after, rfl⟩ := head_splitOn_prefix hlines
        exact ⟨[], after, rfl⟩
      · obtain ⟨before, after, rfl⟩ := ih (by rw [hlines]; exact hlater)
        exact ⟨c :: before, after, rfl⟩
    · rw [List.tail_modifyHead] at h
      obtain ⟨before, after, rfl⟩ := ih h
      exact ⟨c :: before, after, rfl⟩

end Lines

/-! ## What follows a separator -/

section Followed
variable {α : Type} {sep : α} {p : α → Prop}

def Followed (sep : α) (p : α → Prop) (doc : List α) : Prop :=
  ∀ before after, doc = before ++ sep :: after → ∃ c rest, after = c :: rest ∧ p c

namespace Followed

variable {doc : List α}

theorem of_notMem (h : sep ∉ doc) : Followed sep p doc := by
  rintro before after rfl
  exact absurd (List.mem_append_right before List.mem_cons_self) h

theorem append {doc' : List α} (h : Followed sep p doc) (h' : Followed sep p doc') : Followed sep p (doc ++ doc') := by
  intro before after heq
  rcases List.append_eq_append_iff.mp heq with ⟨between, rfl, hdoc'⟩ | ⟨between, hdoc, hrest⟩
  · exact h' between after hdoc'
  · cases between with
    | nil => exact h' [] after hrest.symm
    | cons c between =>
      obtain ⟨rfl, rfl⟩ := List.cons.inj hrest
      obtain ⟨c, rest, rfl, hc⟩ := h before between hdoc
      exact ⟨c, rest ++ doc', rfl, hc⟩

theorem cons {c : α} (hc : c ≠ sep) (h : Followed sep p doc) : Followed sep p (c :: doc) :=
  @append _ _ _ [c] _ (of_notMem fun hmem => hc (List.mem_singleton.mp hmem).symm) h

theorem separator {c : α} (hc : p c) (h : Followed sep p (c :: doc)) : Followed sep p (sep :: c :: doc) := by
  intro before after heq
  cases before with
  | nil =>
    obtain rfl := (List.cons.inj heq).2
    exact ⟨c, doc, rfl, hc⟩
  | cons d before => exact h before after (List.cons.inj heq).2

theorem head_of_mem_tail [BEq α] [LawfulBEq α] (h : Followed sep p doc) {c : α} {line : List α}
    (hline : c :: line ∈ (doc.splitOn sep).tail) : p c := by
  obtain ⟨before, after, rfl⟩ := exists_of_mem_tail hline
  obtain ⟨d, rest, heq, hd⟩ := h before _ rfl
  rw [List.cons_append] at heq
  exact (List.cons.inj heq).1 ▸ hd

end Followed

end Followed

/-! ## Fences -/

section Fences
variable {β : Type} [DecidableEq β] {opening closing : β}

/-- Each delimiter is there once, the closing one at the end. -/
structure Fenced (opening closing : β) (lines : List β) : Prop where
  closesOnce : lines.count closing = 1
  closesLast : lines.getLast? = some closing
  opensOnce : lines.count opening = 1

instance (opening closing : β) (lines : List β) : Decidable (Fenced opening closing lines) :=
  decidable_of_iff (lines.count closing = 1 ∧ lines.getLast? = some closing ∧ lines.count opening = 1)
    ⟨fun h => ⟨h.1, h.2.1, h.2.2⟩, fun h => ⟨h.closesOnce, h.closesLast, h.opensOnce⟩⟩

/-- **A document is fenced** exactly when no line of its body is a delimiter. -/
theorem fenced_iff {head body : List β} (hne : opening ≠ closing) (hopen : opening ∉ head) (hclose : closing ∉ head) :
    Fenced opening closing (head ++ opening :: (body ++ [closing])) ↔ opening ∉ body ∧ closing ∉ body := by
  have hcountClose : (head ++ opening :: (body ++ [closing])).count closing = body.count closing + 1 := by
    rw [List.count_append, List.count_cons_of_ne hne, List.count_append, List.count_eq_zero_of_not_mem hclose,
      List.count_singleton_self, Nat.zero_add]
  have hcountOpen : (head ++ opening :: (body ++ [closing])).count opening = body.count opening + 1 := by
    rw [List.count_append, List.count_cons_self, List.count_append, List.count_eq_zero_of_not_mem hopen,
      List.count_eq_zero_of_not_mem fun hmem => hne (List.mem_singleton.mp hmem), Nat.zero_add, Nat.add_zero]
  have hlast : (head ++ opening :: (body ++ [closing])).getLast? = some closing := by
    rw [← List.cons_append, ← List.append_assoc]
    exact List.getLast?_concat
  constructor
  · intro h
    have hclosed := h.closesOnce
    have hopened := h.opensOnce
    rw [hcountClose] at hclosed
    rw [hcountOpen] at hopened
    exact ⟨List.count_eq_zero.mp (by omega), List.count_eq_zero.mp (by omega)⟩
  · rintro ⟨hopened, hclosed⟩
    constructor
    · rw [hcountClose, List.count_eq_zero.mpr hclosed]
    · exact hlast
    · rw [hcountOpen, List.count_eq_zero.mpr hopened]

end Fences

end Lib
