import TexSplice.Proofs.Reply.Fences

/-! # Content of content

Taking the content of a reply leaves a text of which nothing more can be taken: it is trimmed, and the
only block it may still have is a blank one, for which it is taken whole. So it makes no difference how
often the content is taken. What the first pass takes away can be no more than blanks around a reply,
and those are seen to change no block. -/
namespace TexSplice.Reply
open Text

variable {t reply : Text}

/-! ## Blanks around a reply -/

theorem fence_not_blank : ∀ c ∈ fence, isBlank c = false := by
  intro c hc
  have hmark : c = '`' := List.eq_of_mem_replicate (n := 3) hc
  rw [hmark]
  rfl

theorem fenced?_blanks_append {b : Text} (hb : allBlank b = true) (t : Text) :
    fenced? (b ++ t) = fenced? t := by
  rw [fenced?_eq, fenced?_eq, cut?_blanks_append fence_not_blank (by decide) hb, Option.bind_map]
  rfl

theorem fenced?_append_blanks {b : Text} (hb : allBlank b = true) (t : Text) :
    fenced? (t ++ b) = fenced? t := by
  simp only [fenced?_eq, cut?_append_blanks fence_not_blank (by decide) hb, Option.bind_map,
    Option.map_map, Function.comp_def]

/-- A reply has the block that it has without the blanks around it. -/
theorem fenced?_trim (reply : Text) : fenced? (trim reply) = fenced? reply := by
  obtain ⟨a, b, ha, hb, hreply⟩ := exists_trim reply
  conv_rhs => rw [hreply, fenced?_append_blanks hb, fenced?_blanks_append ha]

theorem fenced?_eq_none (h : ¬ fence <:+: t) : fenced? t = none := by
  rw [fenced?_eq, cut?_eq_none_iff.mpr h, Option.bind_none]

/-! ## What is its own content -/

theorem content_of_unfenced (h : fenced? reply = none) : content reply = trim reply := by
  cases hcode : code? reply with
  | none => rw [content, hcode]
  | some code =>
    obtain ⟨rfl, _⟩ := (code?_of_unfenced h code).mp hcode
    rw [content, hcode]
    cases trim reply <;> rfl

/-- A text of which nothing more can be taken: it is trimmed, and a block in it is blank. -/
structure IsContent (t : Text) : Prop where
  trimmed : trim t = t
  blank : ∀ block, fenced? t = some block → block = []

theorem isContent_of_unfenced (htrim : trim t = t) (h : fenced? t = none) : IsContent t := by
  refine ⟨htrim, fun block hblock => ?_⟩
  rw [h] at hblock
  cases hblock

/-- The content of a reply is the trimmed reply, or a block that holds no fence. -/
theorem isContent_content (reply : Text) : IsContent (content reply) := by
  cases hfenced : fenced? reply with
  | none =>
    rw [content_of_unfenced hfenced]
    exact isContent_of_unfenced (trim_trim reply) (by rwa [fenced?_trim])
  | some block =>
    rw [content_of_fenced hfenced]
    split
    · rename_i hblank
      refine ⟨trim_trim reply, fun other hother => ?_⟩
      rw [fenced?_trim, hfenced, hblank] at hother
      exact (Option.some_inj.mp hother).symm
    · obtain ⟨_, _, _, hblock, rfl⟩ := fenced?_eq_some_iff.mp hfenced
      exact isContent_of_unfenced (trim_trim _) (fenced?_eq_none hblock.block.2)

theorem IsContent.content_eq (h : IsContent t) : content t = t := by
  cases hfenced : fenced? t with
  | none => rw [content_of_unfenced hfenced, h.trimmed]
  | some block => rw [content_of_fenced hfenced, if_pos (h.blank block hfenced), h.trimmed]

theorem content_eq_self_iff : content t = t ↔ IsContent t := by
  constructor
  · intro h
    rw [← h]
    exact isContent_content t
  · exact IsContent.content_eq

/-- **The content of content is the content, and it has no blank at its ends.** A reply is its own
content exactly if it has no blank at its ends, and no block in it but a blank one. -/
theorem content_is_settled (reply : Text) :
    content (content reply) = content reply ∧
    ((∀ c ∈ (content reply).head?, isBlank c = false) ∧
      ∀ c ∈ (content reply).getLast?, isBlank c = false) ∧
    (content reply = reply ↔
      ((∀ c ∈ reply.head?, isBlank c = false) ∧ ∀ c ∈ reply.getLast?, isBlank c = false) ∧
        ∀ block, fenced? reply = some block → block = []) := by
  have h := isContent_content reply
  refine ⟨h.content_eq, trim_eq_self_iff.mp h.trimmed, ?_⟩
  rw [content_eq_self_iff, ← trim_eq_self_iff]
  constructor
  · intro h
    exact ⟨h.trimmed, h.blank⟩
  · intro h
    exact ⟨h.1, h.2⟩

-- Four marks open a block that starts with the fourth, and a blank block leaves the fences.
example : content "````\nx\n````".toList = "`\nx".toList ∧
    content " ```\n``` ".toList = "```\n```".toList := by
  decide +kernel

end TexSplice.Reply
