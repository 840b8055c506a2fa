import CircuitHub.Segment

/-!
# Pieces between fences

The fences in a text, taken from left to right so that no two overlap, part it into *pieces*. This
is what is left of fences when one forgets how they are searched for: a search finds the end of the
first piece (`pieces_of_cut?_eq_some`) or finds that there is but one (`pieces_of_cut?_eq_none`).

* `not_fence_infix_of_mem_pieces`: no fence is left within a piece;
* `pieces_append`: where a text goes on, just its last piece does;
* `pieces_append_newline`: a fence has no line break in it, so that where two texts meet at one,
  just the last piece of the one and the first of the other are joined.
-/

namespace CircuitHub

/-- The pieces of a text between its fences. -/
def pieces : Text → List Text
  | [] => [[]]
  | '\x60' :: '\x60' :: '\x60' :: t => [] :: pieces t
  | c :: t => (pieces t).modifyHead (c :: ·)

@[simp] theorem pieces_nil : pieces [] = [[]] := rfl

@[simp] theorem pieces_fence_append (t : Text) : pieces (fence ++ t) = [] :: pieces t := rfl

theorem fence_prefix_iff {t : Text} :
    fence <+: t ↔ ∃ r, t = '\x60' :: '\x60' :: '\x60' :: r :=
  ⟨fun ⟨r, h⟩ => ⟨r, h.symm⟩, fun ⟨r, h⟩ => ⟨r, h.symm⟩⟩

theorem pieces_cons {c : Char} {t : Text} (h : ¬fence <+: c :: t) :
    pieces (c :: t) = (pieces t).modifyHead (c :: ·) := by
  rw [pieces]
  rintro r rfl rfl
  exact h (fence_prefix_iff.2 ⟨r, rfl⟩)

/-- A text begins with a fence, or its first character belongs to its first piece. -/
@[elab_as_elim]
theorem pieces_induction {motive : Text → Prop} (nil : motive [])
    (fenced : ∀ t, motive t → motive (fence ++ t))
    (cons : ∀ c t, ¬fence <+: c :: t → motive t → motive (c :: t)) (t : Text) : motive t := by
  fun_induction pieces t with
  | case1 => exact nil
  | case2 t ih => exact fenced t ih
  | case3 c t h ih =>
    refine cons c t (fun hp => ?_) ih
    obtain ⟨r, hr⟩ := fence_prefix_iff.1 hp
    cases hr
    exact h r rfl rfl

theorem not_fence_prefix_nil : ¬fence <+: [] := by decide

theorem not_fence_infix_nil : ¬fence <:+: [] := by decide

theorem pieces_ne_nil (t : Text) : pieces t ≠ [] := by
  induction t using pieces_induction with
  | nil => simp
  | fenced t _ => simp
  | cons c t h ih => simpa [pieces_cons h] using ih

/-! ## Searching for fences -/

theorem cut?_fence_cons {c : Char} {t : Text} (h : ¬fence <+: c :: t) :
    Text.cut? (c :: t) fence =
      (Text.cut? t fence).map fun (before, after) => (c :: before, after) := by
  rw [Text.cut?, if_neg]
  rwa [List.isPrefixOf_iff_prefix]

/-- A text without fences is one piece. -/
theorem pieces_of_cut?_eq_none {t : Text} (h : t.cut? fence = none) : pieces t = [t] := by
  induction t using pieces_induction with
  | nil => rfl
  | fenced t _ => exact nomatch h
  | cons c t hc ih =>
    rw [cut?_fence_cons hc, Option.map_eq_none_iff] at h
    rw [pieces_cons hc, ih h, List.modifyHead_cons]

/-- The text before the first fence is the first piece. -/
theorem pieces_of_cut?_eq_some {t before after : Text} (h : t.cut? fence = some (before, after)) :
    pieces t = before :: pieces after := by
  induction t using pieces_induction generalizing before with
  | nil => exact nomatch h
  | fenced t _ =>
    cases h
    rfl
  | cons c t hc ih =>
    rw [cut?_fence_cons hc, Option.map_eq_some_iff] at h
    obtain ⟨⟨b, a⟩, ht, he⟩ := h
    cases he
    rw [pieces_cons hc, ih ht, List.modifyHead_cons]

/-! ## Texts within pieces -/

/-- A text is its pieces with fences between them. -/
theorem intercalate_pieces (t : Text) : fence.intercalate (pieces t) = t := by
  induction t using pieces_induction with
  | nil => rfl
  | fenced t ih =>
    rw [pieces_fence_append, List.intercalate_cons_of_ne_nil (pieces_ne_nil t), ih]
    rfl
  | cons c t hc ih =>
    obtain ⟨p, ps, hp⟩ := List.exists_cons_of_ne_nil (pieces_ne_nil t)
    rw [hp] at ih
    rw [pieces_cons hc, hp, List.modifyHead_cons, List.intercalate_cons_cons_left, ih]

/-- A text of one piece is that piece. -/
theorem eq_of_pieces_eq_singleton {t p : Text} (h : pieces t = [p]) : p = t := by
  rw [← intercalate_pieces t, h, List.intercalate_singleton]

/-- The first piece is how the text begins. -/
theorem prefix_of_pieces_eq_cons {t p : Text} {ps : List Text} (h : pieces t = p :: ps) :
    p <+: t := by
  rw [← intercalate_pieces t, h]
  cases ps with
  | nil => exact ⟨[], (List.append_nil p).trans List.intercalate_singleton.symm⟩
  | cons q qs =>
    rw [List.intercalate_cons_cons, List.append_assoc]
    exact List.prefix_append _ _

/-- Every piece stands in the text. -/
theorem infix_of_mem_pieces {t p : Text} (h : p ∈ pieces t) : p <:+: t := by
  induction t using pieces_induction generalizing p with
  | nil =>
    rw [pieces_nil, List.mem_singleton] at h
    exact h ▸ List.nil_infix
  | fenced t ih =>
    rw [pieces_fence_append, List.mem_cons] at h
    rcases h with rfl | h
    · exact List.nil_infix
    · exact (ih h).trans (List.suffix_append fence t).isInfix
  | cons c t hc ih =>
    obtain ⟨q, qs, hq⟩ := List.exists_cons_of_ne_nil (pieces_ne_nil t)
    rw [pieces_cons hc, hq, List.modifyHead_cons, List.mem_cons] at h
    rcases h with rfl | h
    · exact (List.cons_prefix_cons.2 ⟨rfl, prefix_of_pieces_eq_cons hq⟩).isInfix
    · exact List.infix_cons (ih (hq ▸ List.mem_cons_of_mem q h))

/-- No fence is left within a piece. -/
theorem not_fence_infix_of_mem_pieces {t p : Text} (h : p ∈ pieces t) : ¬fence <:+: p := by
  induction t using pieces_induction generalizing p with
  | nil =>
    rw [pieces_nil, List.mem_singleton] at h
    exact h ▸ not_fence_infix_nil
  | fenced t ih =>
    rw [pieces_fence_append, List.mem_cons] at h
    rcases h with rfl | h
    · exact not_fence_infix_nil
    · exact ih h
  | cons c t hc ih =>
    obtain ⟨q, qs, hq⟩ := List.exists_cons_of_ne_nil (pieces_ne_nil t)
    rw [pieces_cons hc, hq, List.modifyHead_cons, List.mem_cons] at h
    rcases h with rfl | h
    · rw [List.infix_cons_iff]
      rintro (hp | hp)
      · -- The piece is how `c :: t` begins, which does not begin with a fence.
        exact hc (hp.trans (List.cons_prefix_cons.2 ⟨rfl, prefix_of_pieces_eq_cons hq⟩))
      · exact ih (hq ▸ List.mem_cons_self) hp
    · exact ih (hq ▸ List.mem_cons_of_mem q h)

/-- A text that holds no fence is one piece. -/
theorem pieces_eq_singleton {t : Text} (h : ¬fence <:+: t) : pieces t = [t] := by
  induction t using pieces_induction with
  | nil => rfl
  | fenced t _ => exact absurd (List.prefix_append fence t).isInfix h
  | cons c t hc ih =>
    rw [pieces_cons hc, ih fun ht => h (List.infix_cons ht), List.modifyHead_cons]

/-! ## Texts that follow each other -/

/-- A text of more than one piece has the three marks of a fence. -/
theorem three_le_length_of_pieces {t p : Text} {ps : List Text} (h : pieces t = p :: ps)
    (hne : ps ≠ []) : 3 ≤ t.length := by
  refine Nat.not_lt.1 fun hlen => ?_
  have hfence : ¬fence <:+: t := fun hf => Nat.not_le.2 hlen (length_fence ▸ hf.length_le)
  rw [pieces_eq_singleton hfence] at h
  exact hne (List.cons.inj h).2.symm

/-- Where a text goes on, its last piece goes on, and all pieces before it stay. -/
theorem pieces_append {a p : Text} {ps : List Text} (ha : pieces a = ps ++ [p]) (b : Text) :
    pieces (a ++ b) = ps ++ pieces (p ++ b) := by
  induction a using pieces_induction generalizing p ps with
  | nil =>
    obtain ⟨rfl, hp⟩ : ps = [] ∧ [p] = [[]] := by
      simpa using List.append_eq_singleton_iff.1 ha.symm
    cases hp
    rfl
  | fenced t ih =>
    rw [pieces_fence_append, List.cons_eq_append_iff] at ha
    rcases ha with ⟨-, ht⟩ | ⟨ps, rfl, ht⟩
    · exact absurd (List.cons.inj ht).2.symm (pieces_ne_nil t)
    · rw [List.append_assoc, pieces_fence_append, ih ht]
      rfl
  | cons c t hc ih =>
    obtain ⟨x, xs, hx⟩ := List.exists_cons_of_ne_nil (pieces_ne_nil t)
    rw [pieces_cons hc, hx, List.modifyHead_cons, List.cons_eq_append_iff] at ha
    rcases ha with ⟨rfl, ht⟩ | ⟨ps, rfl, ht⟩
    · cases ht
      rw [eq_of_pieces_eq_singleton hx]
      rfl
    · have hlen := three_le_length_of_pieces hx (by simp [ht])
      -- Another fence comes later, so that none begins here and ends in what follows.
      have hc' : ¬fence <+: c :: (t ++ b) := fun hp =>
        hc (List.prefix_of_prefix_length_le hp (List.prefix_append (c :: t) b)
          (Nat.le_succ_of_le hlen))
      rw [List.cons_append, pieces_cons hc',
        ih (show pieces t = x :: ps ++ [p] by rw [hx, ht]; rfl)]
      rfl

theorem not_fence_prefix_append_newline {t : Text} (h : ¬fence <+: t) (b : Text) :
    ¬fence <+: t ++ '\n' :: b := by
  intro hp
  obtain ⟨r, hr⟩ := fence_prefix_iff.1 hp
  -- The three marks stand before the break, as the break is none of them.
  rcases t with _ | ⟨x, _ | ⟨y, _ | ⟨z, t⟩⟩⟩
  · cases hr
  · cases hr
  · cases hr
  · cases hr
    exact h (fence_prefix_iff.2 ⟨t, rfl⟩)

/-- No fence begins in a text that holds none and goes on with a line break. -/
theorem pieces_append_newline_of_not_infix {p b q : Text} {qs : List Text} (hp : ¬fence <:+: p)
    (hb : pieces b = q :: qs) : pieces (p ++ '\n' :: b) = (p ++ '\n' :: q) :: qs := by
  induction p with
  | nil =>
    rw [List.nil_append, pieces_cons (not_fence_prefix_append_newline not_fence_prefix_nil b), hb]
    rfl
  | cons c p ih =>
    have hc : ¬fence <+: c :: (p ++ '\n' :: b) :=
      not_fence_prefix_append_newline (fun hc => hp hc.isInfix) b
    rw [List.cons_append, pieces_cons hc, ih fun h => hp (List.infix_cons h)]
    rfl

/-- Where two texts meet at a line break, the last piece of the one and the first of the other are
    joined, and all other pieces stay. -/
theorem pieces_append_newline {a b p q : Text} {ps qs : List Text} (ha : pieces a = ps ++ [p])
    (hb : pieces b = q :: qs) : pieces (a ++ '\n' :: b) = ps ++ (p ++ '\n' :: q) :: qs := by
  have hp : ¬fence <:+: p := not_fence_infix_of_mem_pieces (by rw [ha]; simp)
  rw [pieces_append ha, pieces_append_newline_of_not_infix hp hb]

end CircuitHub
