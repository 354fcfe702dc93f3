import Mathlib.Data.List.Forall2
import TexSplice.Proofs.Json.Written
import TexSplice.Proofs.Numeral.Written

/-! # The same data

Data are the same if they differ at most in the order of fields, at any depth. The same data have one
sorted text, since fields in order are known by the values under each name. -/
namespace TexSplice.Json

/-! ## Data that are the same -/

section
variable {α β : Type}

/-- The values that stand under a name, in the order of the fields. -/
def valuesOf (name : Text) (fields : List (Text × α)) : List α :=
  (fields.filter fun f => f.1 == name).map Prod.snd

theorem valuesOf_cons_self (name : Text) (value : α) (fields : List (Text × α)) :
    valuesOf name ((name, value) :: fields) = value :: valuesOf name fields := by
  simp [valuesOf]

theorem valuesOf_cons_of_ne {name other : Text} (h : other ≠ name) (value : α)
    (fields : List (Text × α)) : valuesOf name ((other, value) :: fields) = valuesOf name fields := by
  simp [valuesOf, h]

theorem mem_of_mem_valuesOf {name : Text} {value : α} {fields : List (Text × α)}
    (h : value ∈ valuesOf name fields) : (name, value) ∈ fields := by
  obtain ⟨f, hf, rfl⟩ := List.mem_map.mp h
  obtain ⟨hmem, hname⟩ := List.mem_filter.mp hf
  rw [← beq_iff_eq.mp hname]
  exact hmem

/-- If no name stands twice, the order of the fields does not matter. -/
theorem valuesOf_of_perm {f g : List (Text × α)} (h : f.Perm g) (hnodup : (f.map Prod.fst).Nodup)
    (name : Text) : valuesOf name f = valuesOf name g := by
  induction h with
  | nil => rfl
  | cons field _ ih =>
    obtain ⟨n, value⟩ := field
    have ih := ih (List.nodup_cons.mp hnodup).2
    by_cases hn : n = name
    · rw [hn, valuesOf_cons_self, valuesOf_cons_self, ih]
    · rw [valuesOf_cons_of_ne hn, valuesOf_cons_of_ne hn, ih]
  | swap first second rest =>
    obtain ⟨n, value⟩ := first
    obtain ⟨m, content⟩ := second
    have hne : m ≠ n := fun h => (List.nodup_cons.mp hnodup).1 (h ▸ List.mem_cons_self)
    by_cases hn : n = name
    · subst hn
      rw [valuesOf_cons_of_ne hne, valuesOf_cons_self, valuesOf_cons_self, valuesOf_cons_of_ne hne]
    · by_cases hm : m = name
      · subst hm
        rw [valuesOf_cons_self, valuesOf_cons_of_ne hn, valuesOf_cons_of_ne hn, valuesOf_cons_self]
      · simp only [valuesOf_cons_of_ne hn, valuesOf_cons_of_ne hm]
  | trans hfirst _ ih ih' => exact (ih hnodup).trans (ih' ((hfirst.map _).nodup_iff.mp hnodup))

theorem valuesOf_map (g : α → β) (name : Text) (fields : List (Text × α)) :
    valuesOf name (fields.map fun f => (f.1, g f.2)) = (valuesOf name fields).map g := by
  simp [valuesOf, List.filter_map, Function.comp_def]

end

/-- Data that differ at most in the order of fields. If a name stands more than once, the order of its
values counts. Doubles are the same if they stand for the same; a double and a whole number never
are. -/
inductive Same : Json → Json → Prop where
  | null : Same .null .null
  | bool (b : Bool) : Same (.bool b) (.bool b)
  | int (n : Int) : Same (.int n) (.int n)
  | float {a b : Nat} : Numeral.Parts.ofBits a = Numeral.Parts.ofBits b →
      Same (.float a) (.float b)
  | text (t : Text) : Same (.text t) (.text t)
  | list {a b : List Json} : List.Forall₂ Same a b → Same (.list a) (.list b)
  | object {f g : List (Text × Json)} :
      (∀ name, List.Forall₂ Same (valuesOf name f) (valuesOf name g)) →
      Same (.object f) (.object g)

theorem same_text_iff {s t : Text} : Same (.text s) (.text t) ↔ s = t := by
  constructor
  · intro h
    cases h
    rfl
  · rintro rfl
    exact .text s

/-- What holds of data if it holds of all their parts holds of all data. -/
theorem inductOn {motive : Json → Prop} (null : motive .null) (bool : ∀ b, motive (.bool b))
    (int : ∀ n, motive (.int n)) (float : ∀ bits, motive (.float bits))
    (text : ∀ t, motive (.text t))
    (list : ∀ items, (∀ v ∈ items, motive v) → motive (.list items))
    (object : ∀ fields : List (Text × Json), (∀ f ∈ fields, motive f.2) →
      motive (.object fields)) : ∀ v, motive v
  | .null => null
  | .bool b => bool b
  | .int n => int n
  | .float bits => float bits
  | .text t => text t
  | .list items => list items fun v _ => inductOn null bool int float text list object v
  | .object fields => object fields fun (_, value) _ =>
    inductOn null bool int float text list object value
termination_by v => v
decreasing_by
  · decreasing_tactic
  · rename_i h
    have := List.sizeOf_lt_of_mem h
    simp only [Prod.mk.sizeOf_spec, Json.object.sizeOf_spec] at this ⊢
    omega

/-! ## Fields in order -/

section
variable {α : Type}

/-- Fields as they are written. -/
def inOrder (fields : List (Text × α)) : List (Text × α) :=
  fields.mergeSort fun a b => nameLE a.1 b.1

theorem pairwise_inOrder (fields : List (Text × α)) :
    (inOrder fields).Pairwise fun a b => nameLE a.1 b.1 = true :=
  List.pairwise_mergeSort (fun a b c => nameLE_trans a.1 b.1 c.1)
    (fun a b => nameLE_total a.1 b.1) fields

theorem nameLE_refl (name : Text) : nameLE name name = true := by
  simpa using nameLE_total name name

/-- Fields of one name are not put in another order. -/
theorem valuesOf_inOrder (name : Text) (fields : List (Text × α)) :
    valuesOf name (inOrder fields) = valuesOf name fields := by
  have hsub : (fields.filter fun f => f.1 == name).Sublist (inOrder fields) := by
    refine List.sublist_mergeSort (fun a b c => nameLE_trans a.1 b.1 c.1)
      (fun a b => nameLE_total a.1 b.1) ?_ List.filter_sublist
    refine List.pairwise_of_forall_mem_list fun f hf g hg => ?_
    rw [beq_iff_eq.mp (List.mem_filter.mp hf).2, beq_iff_eq.mp (List.mem_filter.mp hg).2]
    exact nameLE_refl name
  have hsub := hsub.filter fun f => f.1 == name
  simp only [List.filter_filter, Bool.and_self] at hsub
  have hperm : (inOrder fields).Perm fields := List.mergeSort_perm ..
  exact congrArg (List.map Prod.snd) (hsub.eq_of_length (hperm.filter _).length_eq.symm).symm

/-- The name of the first of some fields in order is not behind a name that stands among them. -/
theorem nameLE_of_mem_valuesOf {name other : Text} {value content : α} {fields : List (Text × α)}
    (hfirst : ∀ f ∈ fields, nameLE name f.1 = true)
    (h : content ∈ valuesOf other ((name, value) :: fields)) : nameLE name other = true := by
  rcases List.mem_cons.mp (mem_of_mem_valuesOf h) with heq | hmem
  · rw [(Prod.mk.inj heq).1]
    exact nameLE_refl name
  · exact hfirst _ hmem

/-- Fields in order are known by the values under each name. -/
theorem eq_of_valuesOf : ∀ {f g : List (Text × α)},
    f.Pairwise (fun a b => nameLE a.1 b.1 = true) → g.Pairwise (fun a b => nameLE a.1 b.1 = true) →
      (∀ name, valuesOf name f = valuesOf name g) → f = g
  | [], [], _, _, _ => rfl
  | [], (name, value) :: g, _, _, h => by
    have h := h name
    rw [valuesOf_cons_self] at h
    cases h
  | (name, value) :: f, [], _, _, h => by
    have h := h name
    rw [valuesOf_cons_self] at h
    cases h
  | (name, value) :: f, (other, content) :: g, hf, hg, h => by
    obtain ⟨hfirst, hfrest⟩ := List.pairwise_cons.mp hf
    obtain ⟨gfirst, hgrest⟩ := List.pairwise_cons.mp hg
    -- each of the two first names stands in both lists, so it is not before the other
    have hle : nameLE name other = true := by
      have hmem : content ∈ valuesOf other ((name, value) :: f) := by
        rw [h, valuesOf_cons_self]
        exact List.mem_cons_self
      exact nameLE_of_mem_valuesOf hfirst hmem
    have hge : nameLE other name = true := by
      have hmem : value ∈ valuesOf name ((other, content) :: g) := by
        rw [← h, valuesOf_cons_self]
        exact List.mem_cons_self
      exact nameLE_of_mem_valuesOf gfirst hmem
    obtain rfl := nameLE_antisymm hle hge
    have hvalue := h name
    rw [valuesOf_cons_self, valuesOf_cons_self] at hvalue
    obtain ⟨rfl, hrest⟩ := List.cons.inj hvalue
    refine congrArg _ (eq_of_valuesOf hfrest hgrest fun n => ?_)
    by_cases hn : name = n
    · rw [← hn, hrest]
    · have hn' := h n
      rwa [valuesOf_cons_of_ne hn, valuesOf_cons_of_ne hn] at hn'

theorem inOrder_eq_of_valuesOf {f g : List (Text × α)}
    (h : ∀ name, valuesOf name f = valuesOf name g) : inOrder f = inOrder g := by
  refine eq_of_valuesOf (pairwise_inOrder f) (pairwise_inOrder g) fun name => ?_
  rw [valuesOf_inOrder, valuesOf_inOrder, h]

/-- Fields of different names have one order. -/
theorem inOrder_eq_of_perm {f g : List (Text × α)} (h : f.Perm g)
    (hnames : (g.map Prod.fst).Nodup)
    (hsorted : (g.map Prod.fst).Pairwise fun a b => nameLE a b = true) : inOrder f = g := by
  refine eq_of_valuesOf (pairwise_inOrder f) (List.pairwise_map.mp hsorted) fun name => ?_
  rw [valuesOf_inOrder, valuesOf_of_perm h.symm hnames]

theorem forall₂_valuesOf {R : α → α → Prop} {f g : List (Text × α)}
    (h : List.Forall₂ (fun a b => a.1 = b.1 ∧ R a.2 b.2) f g) (name : Text) :
    List.Forall₂ R (valuesOf name f) (valuesOf name g) := by
  induction h with
  | nil => exact .nil
  | @cons a b f g hab _ ih =>
    obtain ⟨n, v⟩ := a
    obtain ⟨m, w⟩ := b
    obtain ⟨rfl, hvalue⟩ := hab
    by_cases hn : n = name
    · rw [hn, valuesOf_cons_self, valuesOf_cons_self]
      exact .cons hvalue ih
    · rw [valuesOf_cons_of_ne hn, valuesOf_cons_of_ne hn]
      exact ih

end

/-! ## The same data have one text -/

theorem floatFormat_named : floatFormat.Named where
  nan := by decide
  infinity := by decide
  nan_sign := by decide
  infinity_sign := by decide
  ne := by decide

theorem writeItems_eq (ascii sortFields : Bool) (items : List Json) :
    writeItems ascii sortFields items = items.map (writeLine ascii sortFields) := by
  induction items with
  | nil => rfl
  | cons item items ih => rw [writeItems, ih, List.map_cons]

theorem writeFields_eq (ascii sortFields : Bool) (fields : List (Text × Json)) :
    writeFields ascii sortFields fields =
      fields.map fun f => (f.1, writeLine ascii sortFields f.2) := by
  induction fields with
  | nil => rfl
  | cons f fields ih => rw [writeFields, ih, List.map_cons]

theorem sorted_list (items : List Json) :
    (Json.list items).sorted = enclose '[' ']' (items.map sorted) := by
  rw [sorted, writeLine, writeItems_eq]
  rfl

theorem sorted_object (fields : List (Text × Json)) :
    (Json.object fields).sorted = enclose '{' '}'
      ((inOrder (fields.map fun f => (f.1, f.2.sorted))).map (writeField true)) := by
  rw [sorted, writeLine, writeFields_eq]
  rfl

theorem map_eq_map_of_forall₂ {α γ : Type} {R : α → α → Prop} {g : α → γ} {a b : List α}
    (h : List.Forall₂ R a b) (hR : ∀ v ∈ a, ∀ w, R v w → g v = g w) : a.map g = b.map g := by
  induction h with
  | nil => rfl
  | cons hvw _ ih =>
    obtain ⟨hfirst, hrest⟩ := List.forall_mem_cons.mp hR
    rw [List.map_cons, List.map_cons, hfirst _ hvw, ih hrest]

theorem Same.sorted_eq {a b : Json} (h : Same a b) : a.sorted = b.sorted := by
  induction a using inductOn generalizing b with
  | null | bool | int | text =>
    cases h
    rfl
  | float =>
    cases h with
    | float hparts => exact (Numeral.FloatFormat.write_eq_iff floatFormat_named).mpr hparts
  | list items ih =>
    cases h with
    | list hitems => rw [sorted_list, sorted_list, map_eq_map_of_forall₂ hitems fun v hv w => ih v hv]
  | object fields ih =>
    cases h with
    | object hfields =>
      rw [sorted_object, sorted_object, inOrder_eq_of_valuesOf fun name => ?_]
      rw [valuesOf_map, valuesOf_map]
      exact map_eq_map_of_forall₂ (hfields name) fun v hv w => ih _ (mem_of_mem_valuesOf hv)

end TexSplice.Json
