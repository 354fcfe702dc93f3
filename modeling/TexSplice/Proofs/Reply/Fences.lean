import TexSplice.Apply.Basic
import TexSplice.Proofs.Text.Cut
import TexSplice.Proofs.Text.Letters

/-! # Code in fences

The block of a reply is what stands between its first fence and the next one. Nothing that may stand
behind a fence, the name of a language, blanks and a line feed, has a mark of the fence in it, so the
second fence is the same whether they are taken away first or last. A reply has a block exactly if two
fences stand in it side by side or apart, and a block never holds one. What a block leaves of a reply
is another matter: a blank block counts as no code, and then the reply is taken with its fences. -/
namespace TexSplice.Reply
open Text

/-! ## Behind an opening fence -/

/-- What stands behind the name of a language in any case, or all of a text that starts with none. -/
def BehindTag (t rest : Text) : Prop :=
  (∃ word, lower word ∈ fenceTags ∧ t = word ++ rest) ∨
    (∀ word tail, t = word ++ tail → lower word ∉ fenceTags) ∧ rest = t

/-- What stands behind all spaces and tabs at the start of a text and one line feed after them. -/
def BehindGap (t rest : Text) : Prop :=
  ∃ gap, (∀ c ∈ gap, c = ' ' ∨ c = '\t') ∧
    (t = gap ++ '\n' :: rest ∨ t = gap ++ rest ∧ ∀ c ∈ rest.head?, c ≠ ' ' ∧ c ≠ '\t' ∧ c ≠ '\n')

def isGap (c : Char) : Bool := c = ' ' || c = '\t'

def untagged (t : Text) : Text := (fenceTags.findSome? fun tag => afterIgnoringCase? tag t).getD t

/-- A text without one line feed at its start. -/
def dropFeed : Text → Text
  | '\n' :: rest => rest
  | rest => rest

theorem dropTag_eq (t : Text) : dropTag t = dropFeed ((untagged t).dropWhile isGap) := rfl

theorem isPlainKey_of_mem_fenceTags {tag : Text} (h : tag ∈ fenceTags) :
    tag.all isPlainKey = true :=
  List.all_eq_true.mp (by decide +kernel : (fenceTags.all fun tag => tag.all isPlainKey) = true) tag h

theorem fenceTags_ne_nil {tag : Text} (h : tag ∈ fenceTags) : tag ≠ [] := by
  rintro rfl
  exact absurd h (by decide)

theorem afterTag?_eq_some_iff {tag t rest : Text} (h : tag ∈ fenceTags) :
    afterIgnoringCase? tag t = some rest ↔ ∃ word, t = word ++ rest ∧ lower word = tag :=
  afterIgnoringCase?_eq_some_iff (isPlainKey_of_mem_fenceTags h)

/-- No text starts with two names of languages. -/
theorem fenceTag_unique {a b t x y : Text} (ha : a ∈ fenceTags) (hb : b ∈ fenceTags)
    (hx : afterIgnoringCase? a t = some x) (hy : afterIgnoringCase? b t = some y) : a = b := by
  have hkeys : ∀ a ∈ fenceTags, ∀ b ∈ fenceTags,
      a.head?.map letterKey = b.head?.map letterKey → a = b := by
    decide +kernel
  refine hkeys a ha b hb ?_
  rw [← letterKey_head?_of_afterIgnoringCase? (fenceTags_ne_nil ha) hx,
    letterKey_head?_of_afterIgnoringCase? (fenceTags_ne_nil hb) hy]

theorem untagged_eq_iff {t rest : Text} : untagged t = rest ↔ BehindTag t rest := by
  unfold untagged
  cases hfound : fenceTags.findSome? fun tag => afterIgnoringCase? tag t with
  | some u =>
    obtain ⟨tag, htag, hu⟩ := List.exists_of_findSome?_eq_some hfound
    obtain ⟨word, ht, hword⟩ := (afterTag?_eq_some_iff htag).mp hu
    rw [Option.getD_some]
    constructor
    · rintro rfl
      exact .inl ⟨word, hword ▸ htag, ht⟩
    · rintro (⟨other, hother, ht'⟩ | ⟨hnone, _⟩)
      · have hrest := (afterTag?_eq_some_iff hother).mpr ⟨other, ht', rfl⟩
        rw [← fenceTag_unique htag hother hu hrest, hu] at hrest
        exact Option.some_inj.mp hrest
      · exact absurd (hword ▸ htag) (hnone word u ht)
  | none =>
    have hnone : ∀ word tail, t = word ++ tail → lower word ∉ fenceTags := by
      intro word tail ht hword
      have := List.findSome?_eq_none_iff.mp hfound _ hword
      rw [(afterTag?_eq_some_iff hword).mpr ⟨word, ht, rfl⟩] at this
      cases this
    rw [Option.getD_none]
    constructor
    · rintro rfl
      exact .inr ⟨hnone, rfl⟩
    · rintro (⟨word, hword, ht⟩ | ⟨_, rfl⟩)
      · exact absurd hword (hnone word rest ht)
      · rfl

theorem dropGap_eq_iff {t rest : Text} : dropFeed (t.dropWhile isGap) = rest ↔ BehindGap t rest := by
  constructor
  · rintro rfl
    have ht : t = t.takeWhile isGap ++ t.dropWhile isGap := List.takeWhile_append_dropWhile.symm
    refine ⟨t.takeWhile isGap, fun c hc => ?_, ?_⟩
    · simpa [isGap] using List.mem_takeWhile_imp hc
    · unfold dropFeed
      split
      · rename_i rest hrest
        exact .inl (by rwa [hrest] at ht)
      · rename_i hfeed
        refine .inr ⟨ht, fun c hc => ?_⟩
        obtain ⟨tail, htail⟩ := List.head?_eq_some_iff.mp hc
        have hstop := List.head?_dropWhile_not isGap t
        rw [htail] at hstop
        have hstop : isGap c = false := hstop
        refine ⟨?_, ?_, ?_⟩
        · rintro rfl
          cases hstop
        · rintro rfl
          cases hstop
        · rintro rfl
          exact hfeed tail htail
  · rintro ⟨gap, hgap, ht⟩
    have hall : ∀ c ∈ gap, isGap c = true := fun c hc => by simpa [isGap] using hgap c hc
    rcases ht with rfl | ⟨rfl, hhead⟩
    · rw [List.dropWhile_append_of_pos hall]
      rfl
    · rw [List.dropWhile_append_of_pos hall]
      cases rest with
      | nil => rfl
      | cons c rest =>
        obtain ⟨hspace, htab, hfeed⟩ := hhead c rfl
        rw [List.dropWhile_cons_of_neg (by simp [isGap, hspace, htab]), dropFeed]
        exact fun _ h => hfeed (List.cons.inj h).1

/-- The text of a block is what stands behind the gap behind the name of a language. -/
theorem dropTag_eq_iff {t body : Text} :
    dropTag t = body ↔ ∃ rest, BehindTag t rest ∧ BehindGap rest body := by
  rw [dropTag_eq, dropGap_eq_iff]
  constructor
  · exact fun h => ⟨_, untagged_eq_iff.mp rfl, h⟩
  · rintro ⟨rest, htag, hgap⟩
    rwa [untagged_eq_iff.mpr htag]

theorem BehindTag.suffix {t rest : Text} (h : BehindTag t rest) : rest <:+ t := by
  rcases h with ⟨word, _, rfl⟩ | ⟨_, rfl⟩
  · exact List.suffix_append ..
  · exact List.suffix_rfl

theorem BehindGap.suffix {t rest : Text} (h : BehindGap t rest) : rest <:+ t := by
  obtain ⟨gap, _, rfl | ⟨rfl, _⟩⟩ := h
  · exact (List.suffix_cons ..).trans (List.suffix_append ..)
  · exact List.suffix_append ..

theorem dropTag_suffix (t : Text) : dropTag t <:+ t := by
  obtain ⟨rest, htag, hgap⟩ := dropTag_eq_iff.mp (rfl : dropTag t = _)
  exact hgap.suffix.trans htag.suffix

/-! ### Before a fence -/

/-- The name of a language has no mark of a fence and no line feed. -/
theorem not_mem_of_tag {word : Text} (h : lower word ∈ fenceTags) : '`' ∉ word ∧ '\n' ∉ word := by
  have hnone {c : Char} (hne : c ≠ 'Σ') (hsmall : lowerChar c = [c])
      (htags : ∀ tag ∈ fenceTags, c ∉ tag) : c ∉ word := by
    intro hmem
    have hlower : c ∈ lower word :=
      lowerChar_subset_lowerAfter hne hmem (hsmall ▸ List.mem_singleton_self c)
    exact htags _ h hlower
  exact ⟨hnone (by decide) (by decide +kernel) (by decide),
    hnone (by decide) (by decide +kernel) (by decide)⟩

theorem BehindTag.append_fence {t rest : Text} (h : BehindTag t rest) (after : Text) :
    BehindTag (t ++ fence ++ after) (rest ++ fence ++ after) := by
  rcases h with ⟨word, hword, rfl⟩ | ⟨hnone, rfl⟩
  · exact .inl ⟨word, hword, by simp⟩
  · refine .inr ⟨fun word tail ht hword => ?_, rfl⟩
    rw [List.append_assoc] at ht
    rcases List.append_eq_append_iff.mp ht with ⟨more, rfl, hmore⟩ | ⟨more, rfl, _⟩
    · -- the name would have to go on into the fence
      cases more with
      | nil => exact hnone _ [] (by simp) hword
      | cons c more =>
        obtain ⟨rfl, _⟩ := List.cons.inj hmore
        exact (not_mem_of_tag hword).1 (List.mem_append_right _ List.mem_cons_self)
    · exact hnone word more rfl hword

theorem BehindGap.append_fence {t rest : Text} (h : BehindGap t rest) (after : Text) :
    BehindGap (t ++ fence ++ after) (rest ++ fence ++ after) := by
  obtain ⟨gap, hgap, rfl | ⟨rfl, hhead⟩⟩ := h
  · exact ⟨gap, hgap, .inl (by simp)⟩
  · refine ⟨gap, hgap, .inr ⟨by simp, fun c hc => ?_⟩⟩
    cases rest with
    | nil =>
      cases hc
      decide
    | cons d rest => exact hhead c hc

theorem dropTag_append (t after : Text) :
    dropTag (t ++ fence ++ after) = dropTag t ++ fence ++ after := by
  obtain ⟨rest, htag, hgap⟩ := dropTag_eq_iff.mp (rfl : dropTag t = _)
  exact dropTag_eq_iff.mpr ⟨_, htag.append_fence after, hgap.append_fence after⟩

/-- The next fence is the same before and after the name of the language is taken away. -/
theorem cut?_dropTag (t : Text) :
    cut? fence (dropTag t) = (cut? fence t).map fun (inside, after) => (dropTag inside, after) := by
  obtain ⟨dropped, hdropped⟩ := dropTag_suffix t
  cases hcut : cut? fence t with
  | none =>
    refine cut?_eq_none_iff.mpr fun h => cut?_eq_none_iff.mp hcut ?_
    exact h.trans (dropTag_suffix t).isInfix
  | some place =>
    obtain ⟨inside, after⟩ := place
    have h := cut?_eq_some_iff.mp hcut
    have ht := h.text
    have hdrop : dropTag t = dropTag inside ++ fence ++ after := by rw [ht, dropTag_append]
    refine cut?_eq_some_iff.mpr (CutAtFirst.of_append (a := dropped) ?_)
    have hinside : dropped ++ dropTag inside = inside := by
      have := hdropped.trans ht
      rw [hdrop, ← List.append_assoc, ← List.append_assoc] at this
      exact List.append_cancel_right (List.append_cancel_right this)
    rwa [hdropped, hinside]

/-! ## The first block -/

/-- A text stands between the first fence of a reply and the next one. -/
structure FirstBlock (reply before inside after : Text) : Prop where
  opens : CutAtFirst fence reply before (inside ++ fence ++ after)
  closes : CutAtFirst fence (inside ++ fence ++ after) inside after

/-- The second fence is looked for before the name of the language is taken away. -/
theorem fenced?_eq (reply : Text) : fenced? reply = (cut? fence reply).bind fun (_, rest) =>
    (cut? fence rest).map fun (inside, _) => trim (dropTag inside) := by
  have hfenced : fenced? reply = (cut? fence reply).bind fun (_, rest) =>
      (cut? fence (dropTag rest)).bind fun (body, _) => some (trim body) := rfl
  simp only [hfenced, cut?_dropTag, Option.map_eq_bind, Option.bind_assoc, Option.bind_some,
    Function.comp_def]

theorem fenced?_eq_some_iff {reply block : Text} :
    fenced? reply = some block ↔ ∃ before inside after,
      FirstBlock reply before inside after ∧ block = trim (dropTag inside) := by
  simp only [fenced?_eq, Option.bind_eq_some_iff, Option.map_eq_some_iff]
  constructor
  · rintro ⟨⟨before, rest⟩, hopens, ⟨inside, after⟩, hcloses, rfl⟩
    have hcloses := cut?_eq_some_iff.mp hcloses
    refine ⟨before, inside, after, ⟨?_, ?_⟩, rfl⟩
    · rw [← hcloses.text]
      exact cut?_eq_some_iff.mp hopens
    · rwa [← hcloses.text]
  · rintro ⟨before, inside, after, h, rfl⟩
    exact ⟨_, cut?_eq_some_iff.mpr h.opens, _, cut?_eq_some_iff.mpr h.closes, rfl⟩

theorem isSome_fenced?_iff {reply : Text} :
    (fenced? reply).isSome = true ↔ ∃ a b c, reply = a ++ fence ++ b ++ fence ++ c := by
  rw [Option.isSome_iff_exists]
  constructor
  · rintro ⟨block, hblock⟩
    obtain ⟨before, inside, after, h, _⟩ := fenced?_eq_some_iff.mp hblock
    exact ⟨before, inside, after, by rw [h.opens.text]; simp⟩
  · rintro ⟨a, b, c, hreply⟩
    have hreply : reply = a ++ fence ++ (b ++ fence ++ c) := by rw [hreply]; simp
    obtain ⟨before, rest, hopens⟩ := exists_cutAtFirst ⟨a, b ++ fence ++ c, hreply.symm⟩
    -- the second fence stands behind the first one
    have hrest : fence <:+: rest :=
      List.IsInfix.trans ⟨b, c, rfl⟩ (hopens.suffix_of_append hreply).isInfix
    obtain ⟨inside, after, hcloses⟩ := exists_cutAtFirst hrest
    rw [hcloses.text] at hopens
    exact ⟨_, fenced?_eq_some_iff.mpr ⟨before, inside, after, ⟨hopens, hcloses.text ▸ hcloses⟩, rfl⟩⟩

/-- A block comes from the inside of the fences and holds no fence. -/
theorem FirstBlock.block {reply before inside after : Text}
    (h : FirstBlock reply before inside after) :
    trim (dropTag inside) <:+: inside ∧ ¬ fence <:+: trim (dropTag inside) := by
  have hpart : trim (dropTag inside) <:+: inside :=
    (infix_of_trim _).trans (dropTag_suffix inside).isInfix
  exact ⟨hpart, fun hfence => h.closes.not_infix (by decide) (hfence.trans hpart)⟩

/-! ## Replies without a block -/

theorem hasCommand_iff {t : Text} :
    hasCommand t = true ↔ ∃ a c b, t = a ++ '\\' :: c :: b ∧ isBlank c = false := by
  fun_induction hasCommand t with
  | case1 c rest ih =>
    rw [Bool.or_eq_true, Bool.not_eq_true', ih]
    constructor
    · rintro (hc | ⟨a, d, b, hrest, hd⟩)
      · exact ⟨[], c, rest, rfl, hc⟩
      · exact ⟨'\\' :: a, d, b, congrArg _ hrest, hd⟩
    · rintro ⟨a, d, b, ht, hd⟩
      cases a with
      | nil =>
        cases ht
        exact .inl hd
      | cons e a => exact .inr ⟨a, d, b, (List.cons.inj ht).2, hd⟩
  | case2 c rest hshape ih =>
    rw [ih]
    constructor
    · rintro ⟨a, d, b, rfl, hd⟩
      exact ⟨c :: a, d, b, rfl, hd⟩
    · rintro ⟨a, d, b, ht, hd⟩
      cases a with
      | nil =>
        obtain ⟨rfl, rfl⟩ := List.cons.inj ht
        exact absurd rfl (hshape d b rfl)
      | cons e a => exact ⟨a, d, b, (List.cons.inj ht).2, hd⟩
  | case3 => simp

theorem code?_of_fenced {reply block : Text} (h : fenced? reply = some block) :
    code? reply = some block := by
  rw [code?, h]

/-- Without a block all of a short reply with a command is code. -/
theorem code?_of_unfenced {reply : Text} (h : fenced? reply = none) (code : Text) :
    code? reply = some code ↔ code = trim reply ∧ reply.length < maxBareLength ∧
      ∃ a c b, reply = a ++ '\\' :: c :: b ∧ isBlank c = false := by
  rw [code?, h, ← hasCommand_iff]
  dsimp only
  split
  · rename_i hbare
    obtain ⟨hcommand, hlength⟩ := Bool.and_eq_true_iff.mp hbare
    rw [Option.some_inj, eq_comm, and_iff_left ⟨of_decide_eq_true hlength, hcommand⟩]
  · rename_i hbare
    refine iff_of_false nofun fun ⟨_, hlength, hcommand⟩ => hbare ?_
    exact Bool.and_eq_true_iff.mpr ⟨hcommand, decide_eq_true hlength⟩

/-! ## A block that was written -/

/-- A name of a language in small letters, or none. -/
def writtenTags : List Text := ["latex".toList, "tex".toList, []]

theorem dropTag_written {tag : Text} (htag : tag ∈ writtenTags) (t : Text) :
    dropTag (tag ++ '\n' :: t) = t := by
  refine dropTag_eq_iff.mpr ⟨'\n' :: t, ?_, [], nofun, .inl rfl⟩
  have hnamed : ∀ tag ∈ writtenTags, lower tag ∈ fenceTags ∨ tag = [] := by decide +kernel
  rcases hnamed tag htag with hname | rfl
  · exact .inl ⟨tag, hname, rfl⟩
  · refine .inr ⟨fun word tail ht hword => ?_, rfl⟩
    cases word with
    | nil => exact absurd hword (by decide)
    | cons c word =>
      obtain ⟨rfl, _⟩ := List.cons.inj ht
      exact (not_mem_of_tag hword).2 List.mem_cons_self

theorem firstBlock_written {before tag body : Text} (hbefore : ¬ fence <:+: before)
    (hlast : before.getLast? ≠ some '`') (htag : tag ∈ writtenTags) (hbody : ¬ fence <:+: body)
    (after : Text) :
    FirstBlock (before ++ fence ++ tag ++ '\n' :: body ++ '\n' :: fence ++ after) before
      (tag ++ '\n' :: body ++ ['\n']) after := by
  have hmark : ∀ d ∈ fence, d = '`' := by simp [fence]
  have hfeed : '\n' ∉ fence := by decide
  have htags : ∀ tag ∈ writtenTags, ¬ fence <:+: tag := by decide
  have hinside : ¬ fence <:+: tag ++ '\n' :: body ++ ['\n'] := by
    rw [infix_concat_iff_of_not_mem hfeed, infix_append_cons_iff hfeed]
    exact not_or.mpr ⟨htags tag htag, hbody⟩
  have hend : (tag ++ '\n' :: body ++ ['\n']).getLast? ≠ some '`' := by
    rw [List.getLast?_concat]
    decide
  constructor
  · have h := cutAtFirst_of_run hmark hbefore hlast (tag ++ '\n' :: body ++ ['\n'] ++ fence ++ after)
    simpa using h
  · exact cutAtFirst_of_run hmark hinside hend after

/-- **The code of a reply is the text between its first two fences**, if it has two that do not
overlap: without the name of a language, the blanks and the line feed that the block starts with, and
trimmed. It holds no fence. Without a block all of the reply is code if it is short and has a command in
it, and else nothing is. So code that is written between fences is found again. -/
theorem code_is_first_block (reply : Text) :
    ((fenced? reply).isSome = true ↔ ∃ a b c, reply = a ++ fence ++ b ++ fence ++ c) ∧
    (∀ block, fenced? reply = some block ↔ ∃ before inside after rest body,
      FirstBlock reply before inside after ∧ BehindTag inside rest ∧ BehindGap rest body ∧
        block = trim body) ∧
    (∀ block, fenced? reply = some block → code? reply = some block ∧ ¬ fence <:+: block) ∧
    (fenced? reply = none → ∀ code, code? reply = some code ↔ code = trim reply ∧
      reply.length < 500 ∧ ∃ a c b, reply = a ++ '\\' :: c :: b ∧ isBlank c = false) ∧
    ∀ before tag body after, ¬ fence <:+: before → before.getLast? ≠ some '`' →
      tag ∈ ["latex".toList, "tex".toList, []] → ¬ fence <:+: body →
        code? (before ++ fence ++ tag ++ '\n' :: body ++ '\n' :: fence ++ after) =
          some (trim body) := by
  refine ⟨isSome_fenced?_iff, fun block => ?_, fun block h => ⟨code?_of_fenced h, ?_⟩,
    code?_of_unfenced, fun before tag body after hbefore hlast htag hbody => ?_⟩
  · rw [fenced?_eq_some_iff]
    constructor
    · rintro ⟨before, inside, after, hblock, rfl⟩
      obtain ⟨rest, htag, hgap⟩ := dropTag_eq_iff.mp (rfl : dropTag inside = _)
      exact ⟨before, inside, after, rest, _, hblock, htag, hgap, rfl⟩
    · rintro ⟨before, inside, after, rest, body, hblock, htag, hgap, rfl⟩
      exact ⟨before, inside, after, hblock, by rw [dropTag_eq_iff.mpr ⟨rest, htag, hgap⟩]⟩
  · obtain ⟨_, _, _, hblock, rfl⟩ := fenced?_eq_some_iff.mp h
    exact hblock.block.2
  · have hblock := firstBlock_written hbefore hlast htag hbody after
    rw [code?_of_fenced (fenced?_eq_some_iff.mpr ⟨_, _, _, hblock, rfl⟩)]
    have hinside : tag ++ '\n' :: body ++ ['\n'] = tag ++ '\n' :: (body ++ ['\n']) := by simp
    rw [hinside, dropTag_written htag, trim_concat_of_blank (by decide)]

/-- Two marks of a fence in the code and one behind the block are no fence. -/
theorem code_between_fences_is_found :
    let before := "Here it is:\n".toList
    let body := "We use ``quotes''.".toList
    ¬ fence <:+: before ∧ before.getLast? ≠ some '`' ∧ ¬ fence <:+: body ∧
      code? (before ++ fence ++ "tex".toList ++ '\n' :: body ++ '\n' :: fence ++ "`".toList) =
        some body := by
  intro before body
  have hbefore : ¬ fence <:+: before := by decide +kernel
  have hlast : before.getLast? ≠ some '`' := by decide
  have hbody : ¬ fence <:+: body := by decide +kernel
  have hcode := (code_is_first_block []).2.2.2.2 before "tex".toList body "`".toList hbefore hlast
    (by decide) hbody
  rw [show trim body = body by decide +kernel] at hcode
  exact ⟨hbefore, hlast, hbody, hcode⟩

-- The name of the language may be in capitals, and text may follow it on its line.
example : code? "```LaTeX  a\n```".toList = some "a".toList := by decide +kernel

/-! ## The content of a reply with a block -/

theorem content_of_fenced {reply block : Text} (h : fenced? reply = some block) :
    content reply = if block = [] then trim reply else block := by
  rw [content, code?_of_fenced h]
  cases block <;> rfl

theorem fence_infix_trim {reply block : Text} (h : fenced? reply = some block) :
    fence <:+: trim reply := by
  obtain ⟨before, inside, after, hblock, _⟩ := fenced?_eq_some_iff.mp h
  refine (infix_trim_iff ?_ reply).mpr ⟨before, _, hblock.opens.text.symm⟩
  simp [fence, isBlank]

/-- **The content of a reply with a block is the block exactly if that is not blank.** Then it comes
from the inside of the first two fences and holds none. Else the content is all of the reply, with its
fences. -/
theorem fenced_content_is_block_iff (r : Request) {block : Text} (h : fenced? r.reply = some block) :
    (content r.reply = block ↔ block ≠ []) ∧
    (block ≠ [] → ¬ fence <:+: r.content ∧
      ∃ before inside after, FirstBlock r.reply before inside after ∧ r.content <:+: inside) ∧
    (block = [] → r.content = trim r.reply ∧ fence <:+: r.content) := by
  have hcontent : r.content = if block = [] then trim r.reply else block := content_of_fenced h
  have hreply := fence_infix_trim h
  refine ⟨?_, fun hne => ?_, fun hblank => ?_⟩
  · rw [content_of_fenced h]
    split
    · rename_i hblank
      refine iff_of_false (fun he => ?_) (not_not.mpr hblank)
      rw [he, hblank] at hreply
      exact absurd hreply (by decide)
    · rename_i hne
      exact iff_of_true rfl hne
  · rw [hcontent, if_neg hne]
    obtain ⟨before, inside, after, hblock, rfl⟩ := fenced?_eq_some_iff.mp h
    exact ⟨hblock.block.2, before, inside, after, hblock, hblock.block.1⟩
  · rw [hcontent, if_pos hblank]
    exact ⟨rfl, hreply⟩

/-- What stands around the fences is not put into the document. -/
theorem fenced_content_is_new_text :
    let r := Request.ofInstruction "write more".toList "Hi".toList
      "Sure:\n```latex\nNew text.\n```\nDone.".toList none none
    fenced? r.reply = some "New text.".toList ∧ content r.reply = "New text.".toList ∧
      ¬ fence <:+: r.content := by
  intro r
  have h : fenced? r.reply = some "New text.".toList := by decide +kernel
  obtain ⟨hiff, hinside, _⟩ := fenced_content_is_block_iff r h
  exact ⟨h, hiff.mpr (by decide), (hinside (by decide)).1⟩

/-- The block is blank, and the fences are written into the document. -/
theorem blank_block_leaves_fences :
    let r := Request.ofInstruction "write more".toList "Hi".toList "```latex\n```".toList none (some 2)
    fenced? r.reply = some [] ∧ content r.reply ≠ [] ∧ fence <:+: r.content ∧
      r.apply.patch.document = "Hi```latex\n```".toList := by
  intro r
  have hcontent : r.content = "```latex\n```".toList := by decide +kernel
  have hreply : content r.reply = "```latex\n```".toList := hcontent
  rw [hcontent, hreply]
  exact ⟨by decide +kernel, by decide, by decide +kernel, by decide +kernel⟩

end TexSplice.Reply
