import TexSplice.Proofs.Json.Decoded

/-! # The same data in another order

Data that hold no doubles, and no name twice in an object, are the same exactly if they are one value
with the fields of its objects in another order. What is the same was told name by name: a field of one
object is taken with the field of its name in the other, and what is left of both is the same again. -/
namespace TexSplice.Json

/-- Data without doubles in which no object has two fields of one name, at any depth. -/
inductive IsProper : Json → Prop where
  | null : IsProper .null
  | bool (b : Bool) : IsProper (.bool b)
  | int (n : Int) : IsProper (.int n)
  | text (t : Text) : IsProper (.text t)
  | list {items : List Json} : (∀ v ∈ items, IsProper v) → IsProper (.list items)
  | object {fields : List (Text × Json)} : (fields.map Prod.fst).Nodup →
      (∀ f ∈ fields, IsProper f.2) → IsProper (.object fields)

/-- One value, with the fields of its objects in another order at any depth: the fields of one object
are those of the other rearranged, with values of which the same holds. -/
inductive Reordered : Json → Json → Prop where
  | null : Reordered .null .null
  | bool (b : Bool) : Reordered (.bool b) (.bool b)
  | int (n : Int) : Reordered (.int n) (.int n)
  | text (t : Text) : Reordered (.text t) (.text t)
  | list {a b : List Json} : List.Forall₂ Reordered a b → Reordered (.list a) (.list b)
  | object {f g rearranged : List (Text × Json)} : g.Perm rearranged →
      f.map Prod.fst = rearranged.map Prod.fst →
      List.Forall₂ Reordered (f.map Prod.snd) (rearranged.map Prod.snd) →
      Reordered (.object f) (.object g)

/-! ## Fields one by one -/

section
variable {α : Type} {R S : α → α → Prop}

theorem forall₂_imp_of_mem {a b : List α} (h : List.Forall₂ R a b)
    (himp : ∀ v ∈ a, ∀ w ∈ b, R v w → S v w) : List.Forall₂ S a b := by
  induction h with
  | nil => exact .nil
  | cons hvw _ ih =>
    refine .cons (himp _ List.mem_cons_self _ List.mem_cons_self hvw) (ih fun v hv w hw => ?_)
    exact himp v (List.mem_cons_of_mem _ hv) w (List.mem_cons_of_mem _ hw)

theorem forall₂_fields_iff {f g : List (Text × α)} :
    List.Forall₂ (fun a b => a.1 = b.1 ∧ R a.2 b.2) f g ↔
      f.map Prod.fst = g.map Prod.fst ∧ List.Forall₂ R (f.map Prod.snd) (g.map Prod.snd) := by
  induction f generalizing g with
  | nil => cases g <;> simp
  | cons a f ih =>
    cases g with
    | nil => simp
    | cons b g =>
      simp only [List.forall₂_cons, List.map_cons, List.cons.injEq, ih]
      exact and_and_and_comm

/-- Fields with related values under each name can be rearranged to stand one beside the other. -/
theorem exists_rearranged {f g : List (Text × α)} (hg : (g.map Prod.fst).Nodup)
    (h : ∀ name, List.Forall₂ R (valuesOf name f) (valuesOf name g)) :
    ∃ rearranged, g.Perm rearranged ∧
      List.Forall₂ (fun a b => a.1 = b.1 ∧ R a.2 b.2) f rearranged := by
  induction f generalizing g with
  | nil =>
    cases g with
    | nil => exact ⟨[], .refl _, .nil⟩
    | cons b g =>
      have hname := h b.1
      rw [valuesOf_cons_self] at hname
      cases hname
  | cons a f ih =>
    obtain ⟨name, v⟩ := a
    have hname := h name
    rw [valuesOf_cons_self] at hname
    obtain ⟨w, _, hvw, _, hvalues⟩ := List.forall₂_cons_left_iff.mp hname
    have hmem : (name, w) ∈ g := mem_of_mem_valuesOf (hvalues ▸ List.mem_cons_self)
    obtain ⟨before, after, rfl⟩ := List.append_of_mem hmem
    have hperm : (before ++ (name, w) :: after).Perm ((name, w) :: (before ++ after)) :=
      List.perm_middle
    have hnodup := (hperm.map Prod.fst).nodup_iff.mp hg
    have hrest : ∀ other, List.Forall₂ R (valuesOf other f) (valuesOf other (before ++ after)) := by
      intro other
      have hother := h other
      rw [valuesOf_of_perm hperm hg] at hother
      by_cases hn : name = other
      · rw [hn, valuesOf_cons_self, valuesOf_cons_self] at hother
        exact (List.forall₂_cons.mp hother).2
      · rwa [valuesOf_cons_of_ne hn, valuesOf_cons_of_ne hn] at hother
    obtain ⟨rearranged, hrearranged, hfields⟩ := ih (List.nodup_cons.mp hnodup).2 hrest
    exact ⟨_, hperm.trans (hrearranged.cons _), .cons ⟨rfl, hvw⟩ hfields⟩

end

/-! ## The same data are reordered -/

variable {a b : Json}

theorem Same.reordered (ha : IsProper a) (hb : IsProper b) (h : Same a b) : Reordered a b := by
  induction ha generalizing b with
  | null | bool | int | text =>
    cases h
    constructor
  | list _ ih =>
    cases h with
    | list hitems =>
      cases hb with
      | list hb => exact .list (forall₂_imp_of_mem hitems fun v hv w hw => ih v hv (hb w hw))
  | object _ _ ih =>
    cases h with
    | object hvalues =>
      cases hb with
      | object hnodup hb =>
        obtain ⟨rearranged, hperm, hfields⟩ := exists_rearranged hnodup hvalues
        have hreordered := forall₂_imp_of_mem (S := fun f g => f.1 = g.1 ∧ Reordered f.2 g.2)
          hfields fun f hf g hg hfg => ⟨hfg.1, ih f hf (hb g (hperm.mem_iff.mpr hg)) hfg.2⟩
        obtain ⟨hnames, hvalues⟩ := forall₂_fields_iff.mp hreordered
        exact .object hperm hnames hvalues

theorem Reordered.same (ha : IsProper a) (hb : IsProper b) (h : Reordered a b) : Same a b := by
  induction ha generalizing b with
  | null | bool | int | text =>
    cases h
    constructor
  | list _ ih =>
    cases h with
    | list hitems =>
      cases hb with
      | list hb => exact .list (forall₂_imp_of_mem hitems fun v hv w hw => ih v hv (hb w hw))
  | object _ _ ih =>
    cases h with
    | object hperm hnames hvalues =>
      cases hb with
      | object hnodup hb =>
        refine .object fun name => ?_
        rw [valuesOf_of_perm hperm hnodup]
        refine forall₂_valuesOf (forall₂_imp_of_mem
          (forall₂_fields_iff.mpr ⟨hnames, hvalues⟩) fun f hf g hg hfg => ?_) name
        exact ⟨hfg.1, ih f hf (hb g (hperm.mem_iff.mpr hg)) hfg.2⟩

theorem same_iff_reordered (ha : IsProper a) (hb : IsProper b) : Same a b ↔ Reordered a b :=
  ⟨Same.reordered ha hb, Reordered.same ha hb⟩

end TexSplice.Json
