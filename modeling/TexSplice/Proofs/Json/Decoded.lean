import TexSplice.Proofs.Json.Same

/-! # Data with one text are the same

A value in writing ends where the next comma or closing bracket stands, since names and numbers have
no such character and texts and brackets are closed. So the texts of the parts can be told apart in
the text of the whole, and a sorted text gives back the data up to the order of fields. -/
namespace TexSplice.Json

/-! ## Numbers and names -/

/-- Characters of numbers and of the names of values. -/
def isTokenChar (c : Char) : Bool := c.isAlphanum || c == '-' || c == '+' || c == '.'

def isIntChar (c : Char) : Bool := c.isDigit || c == '-'

/-- A letter that stands in the name of a value and in no number. -/
def isNameChar (c : Char) : Bool := c == 'l' || c == 'u'

theorem mem_ofInt {n : Int} {c : Char} (h : c ∈ Numeral.ofInt n) : isIntChar c = true := by
  have hdigits : ∀ c ∈ Numeral.ofNat n.natAbs, isIntChar c = true := by
    intro c hc
    rw [isIntChar, Numeral.isDigit_of_mem_toDigits hc, Bool.true_or]
  unfold Numeral.ofInt at h
  split at h
  · rcases List.mem_cons.mp h with rfl | h
    · rfl
    · exact hdigits c h
  · exact hdigits c h

theorem ofInt_injective {m n : Int} (h : Numeral.ofInt m = Numeral.ofInt n) : m = n := by
  have hsign (n : Nat) : (Numeral.ofNat n).head? ≠ some '-' := by
    intro hminus
    exact absurd (Numeral.isDigit_of_mem_toDigits (List.mem_of_mem_head? hminus)) (by decide)
  have hwritten (n : Int) : Numeral.ofInt n =
      (if decide (n < 0) then ['-'] else []) ++ Numeral.ofNat n.natAbs := by
    unfold Numeral.ofInt
    split <;> simp [*]
  rw [hwritten, hwritten] at h
  obtain ⟨hnegative, hdigits⟩ := Numeral.sign_append_inj (hsign _) (hsign _) h
  have habs : m.natAbs = n.natAbs := by
    rw [← Numeral.ofDigitChars_toDigits m.natAbs, ← Numeral.ofDigitChars_toDigits n.natAbs]
    exact congrArg (Nat.ofDigitChars 10 · 0) hdigits
  rw [decide_eq_decide] at hnegative
  omega

theorem tokens_of_all {t : Text} (h : t.all (fun c => isTokenChar c && !isNameChar c) = true) :
    ∀ c ∈ t, isTokenChar c = true ∧ isNameChar c = false := by
  simpa only [List.all_eq_true, Bool.and_eq_true, Bool.not_eq_true'] using h

theorem mem_written (p : Numeral.Parts) :
    (∀ c ∈ p.written floatFormat, isTokenChar c = true ∧ isNameChar c = false) ∧
      ∃ c ∈ p.written floatFormat, isIntChar c = false := by
  have hnumber (c : Char) (h : Numeral.isNumberChar c = true) :
      isTokenChar c = true ∧ isNameChar c = false := by
    simp only [Numeral.isNumberChar, Bool.or_eq_true, beq_iff_eq] at h
    rcases h with (((hdigit | rfl) | rfl) | rfl) | rfl
    · refine ⟨by simp [isTokenChar, Char.isAlphanum, hdigit], ?_⟩
      rw [isNameChar, Bool.or_eq_false_iff, beq_eq_false_iff_ne, beq_eq_false_iff_ne]
      constructor <;> (rintro rfl; cases hdigit)
    all_goals decide
  cases p with
  | nan => exact ⟨tokens_of_all rfl, 'N', by decide⟩
  | infinite =>
    change (∀ c ∈ floatFormat.infinity, _) ∧ ∃ c ∈ floatFormat.infinity, _
    exact ⟨tokens_of_all rfl, 'I', by decide⟩
  | finite negative m e =>
    cases m with
    | zero =>
      change (∀ c ∈ ['0', '.', '0'], _) ∧ ∃ c ∈ ['0', '.', '0'], _
      exact ⟨tokens_of_all rfl, '.', by decide⟩
    | succ m =>
      obtain ⟨hmem, hmark⟩ := Numeral.mem_writeDecimal floatFormat (Numeral.shortest (m + 1) e)
      exact ⟨fun c hc => hnumber c (hmem c hc), hmark.elim (⟨'.', ·, rfl⟩) (⟨'e', ·, rfl⟩)⟩

/-- A double has no character of a name, and one that no whole number has. -/
theorem mem_write (bits : Nat) :
    (∀ c ∈ floatFormat.write bits, isTokenChar c = true ∧ isNameChar c = false) ∧
      ∃ c ∈ floatFormat.write bits, isIntChar c = false := by
  rw [Numeral.FloatFormat.write_eq]
  obtain ⟨hmem, c, hc, hint⟩ := mem_written (Numeral.Parts.ofBits bits)
  refine ⟨List.forall_mem_append.mpr ⟨?_, hmem⟩, c, List.mem_append_right _ hc, hint⟩
  cases (Numeral.Parts.ofBits bits).isNegative <;> exact tokens_of_all rfl

/-! ## Where a value ends -/

/-- Characters that follow a value inside another one. -/
def closes (c : Char) : Bool := c == ',' || c == ']' || c == '}'

/-- A value may end before this text. -/
def Ended (x : Text) : Prop := ∀ c ∈ x.head?, closes c = true

theorem ended_cons {c : Char} (h : closes c = true) (x : Text) : Ended (c :: x) := by
  rintro d hd
  cases hd
  exact h

theorem not_isTokenChar_of_closes {c : Char} (h : closes c = true) : isTokenChar c = false := by
  simp only [closes, Bool.or_eq_true, beq_iff_eq] at h
  obtain (rfl | rfl) | rfl := h <;> rfl

/-- A token goes on as long as its characters do. -/
theorem token_append_inj : ∀ {s t x y : Text}, (∀ c ∈ s, isTokenChar c = true) →
    (∀ c ∈ t, isTokenChar c = true) → Ended x → Ended y → s ++ x = t ++ y → s = t ∧ x = y
  | [], [], _, _, _, _, _, _, h => ⟨rfl, h⟩
  | [], d :: t, x, _, _, ht, hx, _, h => by
    rw [List.nil_append] at h
    have hd := not_isTokenChar_of_closes (hx d (by rw [h]; rfl))
    rw [ht d List.mem_cons_self] at hd
    cases hd
  | c :: s, [], _, y, hs, _, _, hy, h => by
    rw [List.nil_append] at h
    have hc := not_isTokenChar_of_closes (hy c (by rw [← h]; rfl))
    rw [hs c List.mem_cons_self] at hc
    cases hc
  | c :: s, d :: t, _, _, hs, ht, hx, hy, h => by
    obtain ⟨rfl, htail⟩ := List.cons.inj h
    obtain ⟨rfl, hrest⟩ := token_append_inj (List.forall_mem_cons.mp hs).2
      (List.forall_mem_cons.mp ht).2 hx hy htail
    exact ⟨rfl, hrest⟩

def isAtom : Json → Bool
  | .null | .bool _ | .int _ | .float _ => true
  | .text _ | .list _ | .object _ => false

def isNamed : Json → Bool
  | .null | .bool _ => true
  | _ => false

def isInt : Json → Bool
  | .int _ => true
  | _ => false

section
variable {a b v : Json}

theorem isTokenChar_of_isAtom (h : isAtom v = true) : ∀ c ∈ v.sorted, isTokenChar c = true := by
  cases v with
  | null => exact List.all_eq_true.mp rfl
  | bool b => cases b <;> exact List.all_eq_true.mp rfl
  | int n =>
    intro c hc
    have hc := mem_ofInt hc
    simp only [isIntChar, Bool.or_eq_true, beq_iff_eq] at hc
    rcases hc with hdigit | rfl
    · simp [isTokenChar, Char.isAlphanum, hdigit]
    · rfl
  | float bits => exact fun c hc => ((mem_write bits).1 c hc).1
  | text | list | object => cases h

theorem isNamed_sorted (h : isAtom v = true) : v.sorted.any isNameChar = isNamed v := by
  cases v with
  | null => rfl
  | bool b => cases b <;> rfl
  | int n =>
    refine List.any_eq_false.mpr fun c hc hname => ?_
    have hint := mem_ofInt hc
    simp only [isNameChar, Bool.or_eq_true, beq_iff_eq] at hname
    obtain rfl | rfl := hname <;> cases hint
  | float bits =>
    refine List.any_eq_false.mpr fun c hc => ?_
    rw [((mem_write bits).1 c hc).2]
    exact Bool.false_ne_true
  | text | list | object => cases h

theorem isInt_sorted (h : isAtom v = true) : v.sorted.all isIntChar = isInt v := by
  cases v with
  | null => rfl
  | bool b => cases b <;> rfl
  | int n => exact List.all_eq_true.mpr fun c hc => mem_ofInt hc
  | float bits =>
    obtain ⟨c, hc, hint⟩ := (mem_write bits).2
    exact List.all_eq_false.mpr ⟨c, hc, by rw [hint]; exact Bool.false_ne_true⟩
  | text | list | object => cases h

/-- Tokens of different kinds are different. -/
theorem same_of_atoms (ha : isAtom a = true) (hb : isAtom b = true) (h : a.sorted = b.sorted) :
    Same a b := by
  have hnamed : isNamed a = isNamed b := by rw [← isNamed_sorted ha, ← isNamed_sorted hb, h]
  have hint : isInt a = isInt b := by rw [← isInt_sorted ha, ← isInt_sorted hb, h]
  cases a with
  | null =>
    cases b with
    | null => exact .null
    | bool b => cases b <;> exact absurd h (by decide)
    | int | float => cases hnamed
    | text | list | object => cases hb
  | bool a =>
    cases b with
    | null => cases a <;> exact absurd h (by decide)
    | bool b =>
      cases a <;> cases b
      · exact .bool _
      · exact absurd h (by decide)
      · exact absurd h (by decide)
      · exact .bool _
    | int | float => cases hnamed
    | text | list | object => cases hb
  | int m =>
    cases b with
    | int n =>
      obtain rfl := ofInt_injective h
      exact .int m
    | null | bool => cases hnamed
    | float => cases hint
    | text | list | object => cases hb
  | float x =>
    cases b with
    | float y => exact .float ((Numeral.FloatFormat.write_eq_iff floatFormat_named).mp h)
    | null | bool => cases hnamed
    | int => cases hint
    | text | list | object => cases hb
  | text | list | object => cases ha

def starts : Json → Char → Bool
  | .text _, c => c == '"'
  | .list _, c => c == '['
  | .object _, c => c == '{'
  | _, c => isTokenChar c

theorem sorted_ne_nil (h : isAtom v = true) : v.sorted ≠ [] := by
  cases v with
  | null => decide
  | bool b => cases b <;> decide
  | int n =>
    change Numeral.ofInt n ≠ []
    unfold Numeral.ofInt
    split
    · simp
    · exact Nat.toDigits_ne_nil
  | float bits =>
    obtain ⟨c, hc, _⟩ := (mem_write bits).2
    exact List.ne_nil_of_mem hc
  | text | list | object => cases h

theorem exists_cons_sorted (v : Json) : ∃ c rest, v.sorted = c :: rest ∧ starts v c = true := by
  have hatom (h : isAtom v = true) : ∃ c rest, v.sorted = c :: rest ∧ isTokenChar c = true := by
    obtain ⟨c, rest, hv⟩ := List.exists_cons_of_ne_nil (sorted_ne_nil h)
    exact ⟨c, rest, hv, isTokenChar_of_isAtom h c (by rw [hv]; exact List.mem_cons_self)⟩
  cases v with
  | null | bool | int | float => exact hatom rfl
  | text t => exact ⟨'"', _, rfl, rfl⟩
  | list items => exact ⟨'[', _, sorted_list items, rfl⟩
  | object fields => exact ⟨'{', _, sorted_object fields, rfl⟩

theorem not_closes_of_starts {c : Char} (h : starts v c = true) : closes c = false := by
  cases hc : closes c with
  | false => rfl
  | true =>
    simp only [closes, Bool.or_eq_true, beq_iff_eq] at hc
    obtain (rfl | rfl) | rfl := hc <;> cases v <;> cases h

/-- No value starts with a character that follows values. -/
theorem sorted_append_ne {c : Char} (h : closes c = true) (v : Json) (x y : Text) :
    v.sorted ++ x ≠ c :: y := by
  intro heq
  obtain ⟨d, rest, hv, hd⟩ := exists_cons_sorted v
  rw [hv] at heq
  obtain rfl := (List.cons.inj heq).1
  rw [not_closes_of_starts hd] at h
  cases h

/-- Values whose texts start alike start with one character. -/
theorem exists_starts {x y : Text} (h : a.sorted ++ x = b.sorted ++ y) :
    ∃ c, starts a c = true ∧ starts b c = true := by
  obtain ⟨c, s, ha, hc⟩ := exists_cons_sorted a
  obtain ⟨d, t, hb, hd⟩ := exists_cons_sorted b
  rw [ha, hb] at h
  obtain ⟨rfl, _⟩ := List.cons.inj h
  exact ⟨c, hc, hd⟩

end

/-! ## Parts between brackets -/

section
variable {α : Type} {write : α → Text} {R : α → α → Prop} {l m : List α} {x y : Text}

/-- A part can be told apart from what follows it, and from every other part. -/
def Decodes (write : α → Text) (R : α → α → Prop) (a : α) : Prop :=
  ∀ b x y, Ended x → Ended y → write a ++ x = write b ++ y → R a b ∧ x = y

theorem join_cons (sep part : Text) : ∀ parts : List Text,
    Text.join sep (part :: parts) = part ++ parts.flatMap (sep ++ ·)
  | [] => by simp [Text.join]
  | next :: parts => by
    have ih := join_cons sep next parts
    unfold Text.join at ih ⊢
    rw [List.intercalate_cons_cons, ih, List.flatMap_cons, List.append_assoc, List.append_assoc]

theorem ended_flatMap {closing : Char} (hclosing : closes closing = true) (parts : List Text)
    (x : Text) : Ended (parts.flatMap (", ".toList ++ ·) ++ closing :: x) := by
  cases parts with
  | nil => exact ended_cons hclosing x
  | cons part parts => exact ended_cons rfl _

theorem flatMap_append_inj {closing : Char} (hclosing : closes closing = true)
    (hcomma : closing ≠ ',') : ∀ {l m : List α} {x y : Text}, (∀ a ∈ l, Decodes write R a) →
      (l.map write).flatMap (", ".toList ++ ·) ++ closing :: x =
        (m.map write).flatMap (", ".toList ++ ·) ++ closing :: y → List.Forall₂ R l m ∧ x = y
  | [], [], _, _, _, h => ⟨.nil, (List.cons.inj h).2⟩
  | [], b :: m, _, _, _, h => absurd (List.cons.inj h).1 hcomma
  | a :: l, [], _, _, _, h => absurd (List.cons.inj h).1.symm hcomma
  | a :: l, b :: m, x, y, hl, h => by
    obtain ⟨ha, hl⟩ := List.forall_mem_cons.mp hl
    rw [List.map_cons, List.map_cons, List.flatMap_cons, List.flatMap_cons, List.append_assoc,
      List.append_assoc, List.append_assoc, List.append_assoc] at h
    obtain ⟨hab, h⟩ := ha b _ _ (ended_flatMap hclosing _ x) (ended_flatMap hclosing _ y)
      (List.append_cancel_left h)
    obtain ⟨hrest, hxy⟩ := flatMap_append_inj hclosing hcomma hl h
    exact ⟨.cons hab hrest, hxy⟩

/-- Parts between brackets can be told apart if each part can. -/
theorem enclose_append_inj {opening closing : Char} (hclosing : closes closing = true)
    (hcomma : closing ≠ ',') (hfirst : ∀ a s t, write a ++ s ≠ closing :: t)
    (hl : ∀ a ∈ l, Decodes write R a)
    (h : enclose opening closing (l.map write) ++ x = enclose opening closing (m.map write) ++ y) :
    List.Forall₂ R l m ∧ x = y := by
  simp only [enclose, List.cons_append, List.append_assoc, List.cons.injEq, true_and,
    List.nil_append] at h
  cases l with
  | nil =>
    cases m with
    | nil => exact ⟨.nil, (List.cons.inj h).2⟩
    | cons b m =>
      rw [List.map_cons, join_cons, List.append_assoc] at h
      exact absurd h.symm (hfirst b _ _)
  | cons a l =>
    cases m with
    | nil =>
      rw [List.map_cons, join_cons, List.append_assoc] at h
      exact absurd h (hfirst a _ _)
    | cons b m =>
      obtain ⟨ha, hl⟩ := List.forall_mem_cons.mp hl
      rw [List.map_cons, List.map_cons, join_cons, join_cons, List.append_assoc,
        List.append_assoc] at h
      obtain ⟨hab, h⟩ := ha b _ _ (ended_flatMap hclosing _ x) (ended_flatMap hclosing _ y) h
      obtain ⟨hrest, hxy⟩ := flatMap_append_inj hclosing hcomma hl h
      exact ⟨.cons hab hrest, hxy⟩

end

theorem inOrder_map {α β : Type} (g : α → β) (fields : List (Text × α)) :
    inOrder (fields.map fun f => (f.1, g f.2)) = (inOrder fields).map fun f => (f.1, g f.2) :=
  (List.map_mergeSort (f := fun f : Text × α => (f.1, g f.2)) fun _ _ _ _ => rfl).symm

/-! ## Data with one text are the same -/

def writtenField (f : Text × Json) : Text := writeField true (f.1, f.2.sorted)

theorem sorted_object_eq (fields : List (Text × Json)) :
    (Json.object fields).sorted = enclose '{' '}' ((inOrder fields).map writtenField) := by
  rw [sorted_object, inOrder_map, List.map_map]
  rfl

theorem decodes_writtenField {f : Text × Json} (h : Decodes sorted Same f.2) :
    Decodes writtenField (fun f g => f.1 = g.1 ∧ Same f.2 g.2) f := by
  intro g x y hx hy hfield
  simp only [writtenField, writeField, List.append_assoc] at hfield
  obtain ⟨hname, hvalue⟩ := writeText_append_inj hfield
  obtain ⟨hsame, hxy⟩ := h g.2 x y hx hy (List.append_cancel_left hvalue)
  exact ⟨⟨hname, hsame⟩, hxy⟩

theorem decodes_atom {a : Json} (ha : isAtom a = true) : Decodes sorted Same a := by
  intro b x y hx hy h
  obtain ⟨c, hca, hcb⟩ := exists_starts h
  have htoken : isTokenChar c = true := by
    cases a with
    | null | bool | int | float => exact hca
    | text | list | object => cases ha
  have hb : isAtom b = true := by
    cases b with
    | null | bool | int | float => rfl
    | text | list | object =>
      rw [beq_iff_eq.mp hcb] at htoken
      cases htoken
  obtain ⟨hab, hxy⟩ := token_append_inj (isTokenChar_of_isAtom ha) (isTokenChar_of_isAtom hb) hx hy h
  exact ⟨same_of_atoms ha hb hab, hxy⟩

/-- The sorted text of a value gives back the value, and the place where it ends. -/
theorem decodes_sorted (a : Json) : Decodes sorted Same a := by
  induction a using inductOn with
  | null | bool | int | float => exact decodes_atom rfl
  | text s =>
    intro b x y hx hy h
    obtain ⟨c, hca, hcb⟩ := exists_starts h
    obtain rfl := beq_iff_eq.mp hca
    cases b with
    | text t =>
      obtain ⟨rfl, hxy⟩ := writeText_append_inj h
      exact ⟨.text s, hxy⟩
    | null | bool | int | float | list | object => cases hcb
  | list items ih =>
    intro b x y hx hy h
    obtain ⟨c, hca, hcb⟩ := exists_starts h
    obtain rfl := beq_iff_eq.mp hca
    cases b with
    | list others =>
      rw [sorted_list, sorted_list] at h
      obtain ⟨hitems, hxy⟩ := enclose_append_inj rfl (by decide)
        (fun v s t => sorted_append_ne rfl v s t) ih h
      exact ⟨.list hitems, hxy⟩
    | null | bool | int | float | text | object => cases hcb
  | object fields ih =>
    intro b x y hx hy h
    obtain ⟨c, hca, hcb⟩ := exists_starts h
    obtain rfl := beq_iff_eq.mp hca
    cases b with
    | object others =>
      rw [sorted_object_eq, sorted_object_eq] at h
      obtain ⟨hfields, hxy⟩ := enclose_append_inj rfl (by decide)
        (fun f s t h => absurd (List.cons.inj h).1 (by decide))
        (fun f hf => decodes_writtenField (ih f (List.mem_mergeSort.mp hf))) h
      refine ⟨.object fun name => ?_, hxy⟩
      rw [← valuesOf_inOrder name fields, ← valuesOf_inOrder name others]
      exact forall₂_valuesOf hfields name
    | null | bool | int | float | text | list => cases hcb

/-- **Data have one sorted text exactly if they are the same.** -/
theorem sorted_eq_iff {a b : Json} : a.sorted = b.sorted ↔ Same a b := by
  constructor
  · intro h
    have hended : Ended [] := fun _ h => nomatch h
    exact (decodes_sorted a b [] [] hended hended (by rw [h])).1
  · exact Same.sorted_eq

namespace Same

variable {a b c : Json}

theorem refl (a : Json) : Same a a := sorted_eq_iff.mp rfl

theorem symm (h : Same a b) : Same b a := sorted_eq_iff.mp h.sorted_eq.symm

theorem trans (h : Same a b) (h' : Same b c) : Same a c :=
  sorted_eq_iff.mp (h.sorted_eq.trans h'.sorted_eq)

/-- Fields of different names may stand in any order. -/
theorem of_perm {f g : List (Text × Json)} (h : f.Perm g) (hnodup : (f.map Prod.fst).Nodup) :
    Same (.object f) (.object g) := by
  refine .object fun name => ?_
  rw [valuesOf_of_perm h hnodup, List.forall₂_same]
  exact fun v _ => .refl v

end Same

end TexSplice.Json
