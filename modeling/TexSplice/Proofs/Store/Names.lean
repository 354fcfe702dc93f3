import Mathlib.Data.String.Basic
import TexSplice.Proofs.Json.Written
import TexSplice.Store.Basic

/-! # Names of stored files

A file's name is the component's between fixed texts and some digits. So it can be stored whenever
the component's can: the digest adds no slash, no zero character, and few bytes. -/
namespace TexSplice

/-! ## Characters that any file name may have -/

/-- A character of one byte that is neither a slash nor zero. -/
def Text.isPlain (c : Char) : Bool := c != '/' && c != '\x00' && c.utf8Size == 1

namespace Text

theorem byteLength_append (s t : Text) : byteLength (s ++ t) = byteLength s + byteLength t := by
  simp only [byteLength, String.utf8ByteSize_ofList, String.utf8Len_append]

theorem byteLength_of_plain {t : Text} (h : ∀ c ∈ t, isPlain c = true) :
    byteLength t = t.length := by
  rw [byteLength, String.utf8ByteSize_ofList]
  induction t with
  | nil => rfl
  | cons c t ih =>
    obtain ⟨hc, ht⟩ := List.forall_mem_cons.mp h
    simp only [isPlain, Bool.and_eq_true, beq_iff_eq] at hc
    rw [String.utf8Len_cons, ih ht, hc.2, List.length_cons]

theorem not_mem_of_plain {t : Text} (h : ∀ c ∈ t, isPlain c = true) : '/' ∉ t ∧ '\x00' ∉ t :=
  ⟨fun hc => absurd (h _ hc) (by decide), fun hc => absurd (h _ hc) (by decide)⟩

end Text

theorem Digest.exists_hexDigit_of_mem_sha256Hex {c : Char} {t : Text} (h : c ∈ sha256Hex t) :
    ∃ d < 16, c = Text.hexDigit d := by
  obtain ⟨_, _, hc⟩ := List.mem_flatMap.mp h
  exact Text.exists_hexDigit_of_mem_hex hc

/-! ## File names -/

namespace Store

variable {component : Text}

/-- The digits of a digest that the name of a file shows. -/
def shown (t : Text) : Text := (Digest.sha256Hex t).take digestLength

theorem exists_hexDigit_of_mem_shown {c : Char} {t : Text} (h : c ∈ shown t) :
    ∃ d < 16, c = Text.hexDigit d :=
  Digest.exists_hexDigit_of_mem_sha256Hex (List.mem_of_mem_take h)

theorem isPlain_of_mem_shown {c : Char} {t : Text} (h : c ∈ shown t) : Text.isPlain c = true := by
  have hdigits : ∀ d < 16, Text.isPlain (Text.hexDigit d) = true := by decide
  obtain ⟨d, hd, rfl⟩ := exists_hexDigit_of_mem_shown h
  exact hdigits d hd

theorem length_shown (t : Text) : (shown t).length = digestLength := by
  simp [shown, Digest.sha256Hex, Digest.sha256, Text.length_hex, digestLength]

theorem isPlain_of_mem_opening : ∀ c ∈ opening, Text.isPlain c = true := List.all_eq_true.mp rfl

theorem isPlain_of_mem_suffix : ∀ c ∈ suffix, Text.isPlain c = true := List.all_eq_true.mp rfl

theorem fileName_eq (component : Text) (data : Json) : fileName component data =
    opening ++ (component ++ '_' :: (shown (digested component data) ++ suffix)) := by
  simp [fileName, key, shown]

/-- What a file name adds to the component is plain. -/
theorem mem_fileName {c : Char} {data : Json} (h : c ∈ fileName component data) :
    c ∈ component ∨ Text.isPlain c = true := by
  simp only [fileName_eq, List.mem_append, List.mem_cons] at h
  rcases h with h | h | rfl | h | h
  · exact .inr (isPlain_of_mem_opening c h)
  · exact .inl h
  · exact .inr rfl
  · exact .inr (isPlain_of_mem_shown h)
  · exact .inr (isPlain_of_mem_suffix c h)

theorem byteLength_fileName (component : Text) (data : Json) :
    Text.byteLength (fileName component data) = Text.byteLength component + 32 := by
  have hopening : Text.byteLength opening = 11 := Text.byteLength_of_plain isPlain_of_mem_opening
  have hsuffix : Text.byteLength suffix = 4 := Text.byteLength_of_plain isPlain_of_mem_suffix
  have hunderscore : Text.byteLength ['_'] = 1 := rfl
  have hshown : Text.byteLength (shown (digested component data)) = 16 :=
    (Text.byteLength_of_plain fun _ => isPlain_of_mem_shown).trans (length_shown _)
  rw [fileName_eq, List.append_cons]
  simp only [Text.byteLength_append, hopening, hsuffix, hunderscore, hshown]
  omega

/-- A file name gives back the component, and what its digest shows. -/
theorem fileName_inj {c d : Text} {a b : Json} (h : fileName c a = fileName d b) :
    c = d ∧ shown (Store.digested c a) = shown (Store.digested d b) := by
  have hkey := List.append_cancel_right h
  simp only [key, List.append_assoc] at hkey
  obtain ⟨hcomponent, hshown⟩ := List.append_inj' (List.append_cancel_left hkey)
    (congrArg (· + 1) ((length_shown _).trans (length_shown _).symm))
  exact ⟨hcomponent, (List.cons.inj hshown).2⟩

/-- A file of a new name comes before the others. -/
theorem files_put_of_none {s : Store} {name : Text} {content : Option Json}
    (h : s.file? name = none) : (s.put name content).files = (name, content) :: s.files := by
  have hne : ∀ f ∈ s.files, (f.1 != name) = true := by
    intro f hf
    rw [bne, Bool.beq_comm]
    exact List.lookup_eq_none_iff.mp h f hf
  exact congrArg _ (List.filter_eq_self.mpr hne)

theorem write_eq_ite {name : Text} (hzero : '\x00' ∉ name) (s : Store) (content : Option Json) :
    s.write name content = if storable name then .ok (s.put name content) else .ok s := by
  rw [write, if_neg (by simpa using hzero)]

theorem write_eq_put {name : Text} (hzero : '\x00' ∉ name) (h : storable name = true) (s : Store)
    (content : Option Json) : s.write name content = .ok (s.put name content) := by
  rw [write_eq_ite hzero, if_pos h]

/-- A component with a plain name that is not too long can store everything. -/
theorem set_eq_put (hc : ∀ c ∈ component, Text.isPlain c = true)
    (hlen : component.length + 32 ≤ maxNameLength) (s : Store) (data result : Json) :
    s.set component data result = .ok (s.put (fileName component data) (some result)) := by
  have hplain : ∀ c ∈ fileName component data, Text.isPlain c = true :=
    fun c h => (mem_fileName h).elim (hc c) id
  obtain ⟨hslash, hzero⟩ := Text.not_mem_of_plain hplain
  have hbytes : Text.byteLength (fileName component data) ≤ maxNameLength := by
    rwa [byteLength_fileName, Text.byteLength_of_plain hc]
  have hstorable : storable (fileName component data) = true := by simp [storable, hslash, hbytes]
  exact write_eq_put hzero hstorable s _

end Store

end TexSplice
