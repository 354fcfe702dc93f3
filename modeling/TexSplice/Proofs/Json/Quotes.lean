import TexSplice.Proofs.Json.Decoded

/-! # Inside and outside of texts

A reader that goes through written data one character after the other knows at each place whether it is
inside of a text, for a quotation mark begins a text or ends one unless it is escaped, and no backslash
stands outside of texts. A reader that took the inside for the outside from the start would be wrong to
the end. So written data do not end with other written data behind a colon: outside of texts a blank
follows a colon, and inside the reader of the other data would be wrong. -/
namespace TexSplice.Json

/-! ## Reading -/

/-- Where a reader of written data is. -/
inductive Place where
  | outside
  | inside
  /-- Behind a backslash in a text. -/
  | escaped
  /-- Behind the colon after the name of a field. -/
  | named
deriving Repr, DecidableEq

/-- Where a reader is behind a character; nowhere if written data have no such character there. -/
def Place.next? : Place → Char → Option Place
  | outside, c =>
    if c = '"' then some inside
    else if c = '\\' then none
    else if c = ':' then some named
    else some outside
  | inside, c =>
    if c = '"' then some outside else if c = '\\' then some escaped else some inside
  | escaped, _ => some inside
  | named, c => if c = ' ' then some outside else none

def readFrom (p : Place) (t : Text) : Option Place := t.foldlM Place.next? p

/-- A text that is read from outside of texts to outside of texts. -/
def Reads (t : Text) : Prop := readFrom .outside t = some .outside

variable {p q p' q' : Place} {c : Char} {s t : Text}

theorem readFrom_cons (p : Place) (c : Char) (t : Text) :
    readFrom p (c :: t) = (p.next? c).bind fun q => readFrom q t :=
  List.foldlM_cons

theorem readFrom_append (p : Place) (s t : Text) :
    readFrom p (s ++ t) = (readFrom p s).bind fun q => readFrom q t :=
  List.foldlM_append

theorem Reads.append (hs : Reads s) (ht : Reads t) : Reads (s ++ t) := by
  rw [Reads, readFrom_append, hs, Option.bind_some, ht]

theorem reads_flatMap {α : Type} {f : α → Text} {l : List α} (h : ∀ a ∈ l, Reads (f a)) :
    Reads (l.flatMap f) := by
  induction l with
  | nil => rfl
  | cons a l ih =>
    obtain ⟨ha, hl⟩ := List.forall_mem_cons.mp h
    exact ha.append (ih hl)

theorem reads_enclose {opening closing : Char} {parts : List Text} (hopening : Reads [opening])
    (hclosing : Reads [closing]) (h : ∀ part ∈ parts, Reads part) :
    Reads (enclose opening closing parts) := by
  have hparts : Reads (Text.join ", ".toList parts) := by
    cases parts with
    | nil => rfl
    | cons part parts =>
      obtain ⟨hpart, hparts⟩ := List.forall_mem_cons.mp h
      rw [join_cons]
      exact hpart.append (reads_flatMap fun u hu => Reads.append (s := ", ".toList) rfl (hparts u hu))
  exact hopening.append (hparts.append hclosing)

/-! ## Written data are read -/

theorem reads_of_isTokenChar (h : ∀ c ∈ t, isTokenChar c = true) : Reads t := by
  induction t with
  | nil => rfl
  | cons c t ih =>
    obtain ⟨hc, ht⟩ := List.forall_mem_cons.mp h
    have hne {d : Char} (hd : isTokenChar d = false) : c ≠ d := by
      rintro rfl
      rw [hc] at hd
      cases hd
    have hnext : Place.outside.next? c = some .outside := by
      rw [Place.next?, if_neg (hne rfl), if_neg (hne rfl), if_neg (hne rfl)]
    rw [Reads, readFrom_cons, hnext]
    exact ih ht

theorem readFrom_inside_of_not_mem (hquote : '"' ∉ t) (hslash : '\\' ∉ t) :
    readFrom .inside t = some .inside := by
  induction t with
  | nil => rfl
  | cons c t ih =>
    obtain ⟨hcquote, hquote⟩ := not_or.mp (mt List.mem_cons.mpr hquote)
    obtain ⟨hcslash, hslash⟩ := not_or.mp (mt List.mem_cons.mpr hslash)
    rw [readFrom_cons, Place.next?, if_neg (Ne.symm hcquote), if_neg (Ne.symm hcslash)]
    exact ih hquote hslash

theorem readFrom_unit (n : Nat) (t : Text) :
    readFrom .inside ('\\' :: 'u' :: Text.hex 4 n ++ t) = readFrom .inside t := by
  have hdigits : ∀ d < 16, '"' ≠ Text.hexDigit d ∧ '\\' ≠ Text.hexDigit d := by decide
  have hhex : readFrom .inside (Text.hex 4 n) = some .inside := by
    refine readFrom_inside_of_not_mem (fun h => ?_) fun h => ?_
    · obtain ⟨d, hd, he⟩ := Text.exists_hexDigit_of_mem_hex h
      exact (hdigits d hd).1 he
    · obtain ⟨d, hd, he⟩ := Text.exists_hexDigit_of_mem_hex h
      exact (hdigits d hd).2 he
  have hescape : readFrom .inside ('\\' :: 'u' :: Text.hex 4 n) = some .inside := hhex
  rw [readFrom_append, hescape, Option.bind_some]

/-- What stands for a character in a text does not leave the text. -/
theorem Form.readFrom (h : Form c s) : readFrom .inside s = some .inside := by
  cases h with
  | short x => rfl
  | units =>
    unfold escapeUnits
    dsimp only
    split
    · rw [← List.append_nil (_ :: _), readFrom_unit]
      rfl
    · rw [readFrom_unit, ← List.append_nil (_ :: _), readFrom_unit]
      rfl
  | plain hquote hslash =>
    exact readFrom_inside_of_not_mem (by simpa using Ne.symm hquote) (by simpa using Ne.symm hslash)

theorem reads_writeText (t : Text) : Reads (writeText true t) := by
  have hchars : readFrom .inside (t.flatMap (writeChar true)) = some .inside := by
    induction t with
    | nil => rfl
    | cons c t ih =>
      rw [List.flatMap_cons, readFrom_append, (form_writeChar c).readFrom, Option.bind_some, ih]
  change readFrom .inside (t.flatMap (writeChar true) ++ ['"']) = _
  rw [readFrom_append, hchars]
  rfl

theorem reads_sorted (v : Json) : Reads v.sorted := by
  induction v using inductOn with
  | null | bool | int | float => exact reads_of_isTokenChar (isTokenChar_of_isAtom rfl)
  | text t => exact reads_writeText t
  | list items ih =>
    rw [sorted_list]
    exact reads_enclose rfl rfl (List.forall_mem_map.mpr ih)
  | object fields ih =>
    rw [sorted_object_eq]
    refine reads_enclose rfl rfl (List.forall_mem_map.mpr fun f hf => ?_)
    have hvalue := ih f (List.mem_mergeSort.mp hf)
    exact ((reads_writeText f.1).append (t := ": ".toList) rfl).append hvalue

/-! ## A reader that is wrong -/

/-- One reader is inside of a text, the other outside. -/
def Facing (p q : Place) : Prop := p = .inside ∧ (q = .outside ∨ q = .named)

/-- Behind a character two such readers still are, or they have changed sides. -/
theorem Facing.next (h : Facing p q) (hp : p.next? c = some p') (hq : q.next? c = some q') :
    Facing p' q' ∨ Facing q' p' := by
  obtain ⟨rfl, rfl | rfl⟩ := h
  · by_cases hquote : c = '"'
    · simp only [Place.next?, if_pos hquote, Option.some_inj] at hp hq
      exact .inr ⟨hq.symm, .inl hp.symm⟩
    · by_cases hslash : c = '\\'
      · simp [Place.next?, hslash] at hq
      · simp only [Place.next?, if_neg hquote, if_neg hslash, Option.some_inj] at hp hq
        split at hq
        · exact .inl ⟨hp.symm, .inr (Option.some_inj.mp hq).symm⟩
        · exact .inl ⟨hp.symm, .inl (Option.some_inj.mp hq).symm⟩
  · by_cases hblank : c = ' '
    · subst hblank
      cases hp
      cases hq
      exact .inl ⟨rfl, .inl rfl⟩
    · simp [Place.next?, hblank] at hq

theorem Facing.readFrom (h : Facing p q) (hp : readFrom p t = some p')
    (hq : Json.readFrom q t = some q') : Facing p' q' ∨ Facing q' p' := by
  induction t generalizing p q p' q' with
  | nil =>
    cases hp
    cases hq
    exact .inl h
  | cons c t ih =>
    obtain ⟨p₁, hp₁, hp⟩ := Option.bind_eq_some_iff.mp hp
    obtain ⟨q₁, hq₁, hq⟩ := Option.bind_eq_some_iff.mp hq
    rcases h.next hp₁ hq₁ with h | h
    · exact ih h hp hq
    · exact (ih h hq hp).symm

theorem readFrom_inside_ne (ht : Reads t) : readFrom .inside t ≠ some .outside := by
  intro h
  have hfacing : Facing .inside .outside := ⟨rfl, .inl rfl⟩
  rcases hfacing.readFrom h ht with ⟨hp, _⟩ | ⟨hp, _⟩ <;> cases hp

/-- What is read ends with nothing that is read, does not begin with a blank and stands behind a
colon. -/
theorem not_reads_append_colon (hblank : t.head? ≠ some ' ') (ht : Reads t) (s : Text) :
    ¬ Reads (s ++ ':' :: t) := by
  intro h
  rw [Reads, readFrom_append, Option.bind_eq_some_iff] at h
  obtain ⟨p, _, h⟩ := h
  cases p with
  | outside =>
    cases t with
    | nil => cases h
    | cons c t =>
      obtain ⟨q, hq, _⟩ := Option.bind_eq_some_iff.mp (h : readFrom .named (c :: t) = _)
      rw [Place.next?, if_neg (by simpa using hblank)] at hq
      cases hq
  | inside | escaped => exact readFrom_inside_ne ht h
  | named => cases h

/-- No data in writing begin with a blank. -/
theorem head?_sorted_ne (v : Json) : v.sorted.head? ≠ some ' ' := by
  obtain ⟨c, rest, hv, hc⟩ := exists_cons_sorted v
  rw [hv, List.head?_cons, ne_eq, Option.some_inj]
  rintro rfl
  cases v <;> cases hc

end TexSplice.Json
