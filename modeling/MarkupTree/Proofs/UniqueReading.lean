import MarkupTree.Proofs.TextNormalization

/-!
# Markup determines the tree

Nodes in normal form that are written alike are equal, as long as their names keep clear of the
characters that end a name and their comments do not end early. The proof reads two texts of markup
side by side: whatever follows, the first node of both is the same, and so is what is left
(`uniquelyRead`).
-/

namespace MarkupTree

/-! ## Telling texts apart -/

/-- Two texts that are followed by a character they do not hold end at the same place. -/
theorem eq_of_append_eq_append {p : Char → Prop} {s t x y : List Char} (hs : ∀ c ∈ s, p c)
    (ht : ∀ c ∈ t, p c) (hx : ∀ c ∈ x.head?, ¬ p c) (hy : ∀ c ∈ y.head?, ¬ p c)
    (h : s ++ x = t ++ y) : s = t ∧ x = y := by
  induction s generalizing t with
  | nil =>
    cases t with
    | nil => exact ⟨rfl, h⟩
    | cons c t =>
      have hp := (List.forall_mem_cons.mp ht).1
      exact absurd hp (hx c (by rw [← List.nil_append x, h]; rfl))
  | cons c s ih =>
    cases t with
    | nil =>
      have hp := (List.forall_mem_cons.mp hs).1
      exact absurd hp (hy c (by rw [← List.nil_append y, ← h]; rfl))
    | cons d t =>
      obtain ⟨rfl, hrest⟩ := List.cons.inj h
      obtain ⟨rfl, hxy⟩ :=
        ih (List.forall_mem_cons.mp hs).2 (List.forall_mem_cons.mp ht).2 hrest
      exact ⟨rfl, hxy⟩

/-- The characters with which a comment ends. -/
def commentEnd : List Char := "-->".toList

/-- Where the end of a comment is found after a text and a space, it is not found earlier. -/
theorem eq_nil_of_commentEnd {d x y : List Char} (hd : ¬ commentEnd <:+: d)
    (h : ' ' :: (commentEnd ++ x) = d ++ ' ' :: (commentEnd ++ y)) : d = [] := by
  cases d with
  | nil => rfl
  | cons c d =>
    obtain ⟨rfl, htail⟩ := List.cons.inj h
    exfalso
    rcases List.append_eq_append_iff.mp htail with ⟨e, hde, -⟩ | ⟨e, hend, hrest⟩
    -- The end of the comment lies inside the text.
    · exact hd ⟨[' '], e, by rw [hde]; rfl⟩
    · cases e with
      | nil =>
        rw [List.append_nil] at hend
        exact hd ⟨[' '], [], by rw [hend, List.append_nil]; rfl⟩
      | cons a e =>
        -- The space would have to be a character of the end.
        obtain ⟨rfl, -⟩ := List.cons.inj hrest
        have hmem : ' ' ∈ commentEnd := by rw [hend]; simp
        exact absurd hmem (by decide)

/-- Two comments that do not end early have the same text, and the same characters follow them. -/
theorem comment_append_inj {s t x y : List Char} (hs : ¬ commentEnd <:+: s)
    (ht : ¬ commentEnd <:+: t)
    (h : s ++ ' ' :: (commentEnd ++ x) = t ++ ' ' :: (commentEnd ++ y)) : s = t ∧ x = y := by
  have hst : s = t := by
    -- The longer text goes on with the end of the shorter comment.
    rcases List.append_eq_append_iff.mp h with ⟨d, rfl, hd⟩ | ⟨d, rfl, hd⟩
    · have hnotin : ¬ commentEnd <:+: d := fun hin =>
        ht (hin.trans (List.suffix_append s d).isInfix)
      have hnil := eq_nil_of_commentEnd hnotin hd
      rw [hnil, List.append_nil]
    · have hnotin : ¬ commentEnd <:+: d := fun hin =>
        hs (hin.trans (List.suffix_append t d).isInfix)
      have hnil := eq_nil_of_commentEnd hnotin hd
      rw [hnil, List.append_nil]
  subst hst
  have hrest := List.append_cancel_left h
  exact ⟨rfl, List.append_cancel_left (List.cons.inj hrest).2⟩

/-! ## Names and attributes -/

/-- The characters that a name in markup must keep clear of. -/
def nameDelimiters : List Char := [' ', '<', '>', '/', '=', '"', '\'', '&', '!']

/-- A name that can be told from what follows it. -/
structure PlainName (name : String) : Prop where
  /-- There is a name. -/
  ne_empty : name ≠ ""
  /-- It holds no delimiter. -/
  not_mem : ∀ c ∈ name.toList, c ∉ nameDelimiters

instance (name : String) : Decidable (PlainName name) :=
  decidable_of_iff (name ≠ "" ∧ name.toList.all (· ∉ nameDelimiters) = true)
    ⟨fun h => ⟨h.1, fun c hc => of_decide_eq_true (List.all_eq_true.mp h.2 c hc)⟩,
      fun h => ⟨h.ne_empty, List.all_eq_true.mpr fun c hc => decide_eq_true (h.not_mem c hc)⟩⟩

theorem PlainName.append_inj {s t : String} (hs : PlainName s) (ht : PlainName t)
    {x y : List Char} (hx : ∀ c ∈ x.head?, c ∈ nameDelimiters)
    (hy : ∀ c ∈ y.head?, c ∈ nameDelimiters) (h : s.toList ++ x = t.toList ++ y) :
    s = t ∧ x = y := by
  obtain ⟨hst, hxy⟩ := eq_of_append_eq_append hs.not_mem ht.not_mem
    (fun c hc hnot => hnot (hx c hc)) (fun c hc hnot => hnot (hy c hc)) h
  exact ⟨String.toList_inj.mp hst, hxy⟩

theorem PlainName.exists_toList_eq_cons {s : String} (hs : PlainName s) :
    ∃ c cs, s.toList = c :: cs ∧ c ∉ nameDelimiters := by
  cases hcs : s.toList with
  | nil => exact absurd (String.toList_eq_nil_iff.mp hcs) hs.ne_empty
  | cons c cs => exact ⟨c, cs, rfl, hs.not_mem c (by rw [hcs]; exact List.mem_cons_self)⟩

namespace Markup

theorem toList_attributesText_cons (name value : String) (rest : List (String × String)) :
    (attributesText ((name, value) :: rest)).toList =
      ' ' :: (name.toList ++
        ('=' :: '"' :: (escapeChars value.toList ++ '"' :: (attributesText rest).toList))) := by
  simp [attributesText, attributeText]

/-- Attributes in front of characters that do not begin with a space are uniquely read. -/
theorem attributesText_append_inj {as bs : List (String × String)}
    (has : ∀ a ∈ as, PlainName a.1) (hbs : ∀ b ∈ bs, PlainName b.1) {x y : List Char}
    (hx : ∀ c ∈ x.head?, c ≠ ' ') (hy : ∀ c ∈ y.head?, c ≠ ' ')
    (h : (attributesText as).toList ++ x = (attributesText bs).toList ++ y) :
    as = bs ∧ x = y := by
  induction as generalizing bs with
  | nil =>
    cases bs with
    | nil => exact ⟨rfl, by simpa [attributesText] using h⟩
    | cons b bs =>
      -- The next attribute would begin with a space.
      rw [toList_attributesText_cons] at h
      simp only [attributesText, String.toList_empty, List.nil_append] at h
      exact absurd rfl (hx ' ' (by rw [h]; rfl))
  | cons a as ih =>
    cases bs with
    | nil =>
      rw [toList_attributesText_cons] at h
      simp only [attributesText, String.toList_empty, List.nil_append] at h
      exact absurd rfl (hy ' ' (by rw [← h]; rfl))
    | cons b bs =>
      obtain ⟨name, value⟩ := a
      obtain ⟨name', value'⟩ := b
      obtain ⟨hname, has'⟩ := List.forall_mem_cons.mp has
      obtain ⟨hname', hbs'⟩ := List.forall_mem_cons.mp hbs
      rw [toList_attributesText_cons, toList_attributesText_cons] at h
      simp only [List.cons_append, List.append_assoc, List.cons.injEq, true_and] at h
      -- The name ends at the equals sign, the value at the quotation mark.
      obtain ⟨rfl, hequals⟩ := hname.append_inj hname' (by simp [nameDelimiters])
        (by simp [nameDelimiters]) h
      simp only [List.cons.injEq, true_and] at hequals
      -- An escaped value holds no quotation mark.
      have hquote : ∀ s : String, ∀ c ∈ escapeChars s.toList, c ≠ '"' := by
        rintro s c hc rfl
        exact not_mem_delimiters_of_mem_escapeChars hc (by decide)
      obtain ⟨hvalue, hrest⟩ := eq_of_append_eq_append (hquote value) (hquote value') (by simp)
        (by simp) hequals
      obtain ⟨rfl, hxy⟩ := ih has' hbs' (List.cons.inj hrest).2
      rw [String.toList_inj.mp (escapeChars_injective hvalue)]
      exact ⟨rfl, hxy⟩

end Markup

namespace Node

/-! ## Plain nodes -/

/-- The nodes whose markup can be told apart: no raw text, no comment that ends early, and names
that keep clear of the delimiters. -/
inductive Plain : Node → Prop
  /-- A text. -/
  | text (content) : Plain (.text content)
  /-- A comment whose text does not hold the end of a comment. -/
  | comment {content} (h : ¬ commentEnd <:+: content.toList) : Plain (.comment content)
  /-- An element with plain names and plain children. -/
  | element {tag attributes children} (htag : PlainName tag)
      (hattributes : ∀ a ∈ attributes, PlainName a.1)
      (hchildren : ∀ child ∈ children, Plain child) : Plain (.element tag attributes children)

theorem Plain.normalize {n : Node} (h : n.Plain) : n.normalize.Plain := by
  induction h with
  | text content => rw [Node.normalize]; exact .text content
  | comment h => rw [Node.normalize]; exact .comment h
  | element htag hattributes _ ih =>
    rw [normalize_element]
    exact .element htag hattributes (forall_mem_normalizeTexts .text (List.forall_mem_map.mpr ih))

/-! ## How the markup of a node begins -/

theorem toList_markup_text (content : String) :
    (text content).markup.toList = Markup.escapeChars content.toList := by
  rw [markup, Markup.toList_escape]

theorem toList_markup_comment (content : String) :
    (comment content).markup.toList =
      '<' :: '!' :: '-' :: '-' :: ' ' :: (content.toList ++ ' ' :: commentEnd) := by
  simp [markup, commentEnd]

/-- What follows the attributes of an element. -/
def elementEnd (tag : String) (children : List Node) : List Char :=
  if children.isEmpty then ['/', '>']
  else '>' :: ((markupAll children).toList ++ '<' :: '/' :: (tag.toList ++ ['>']))

theorem toList_markup_element (tag : String) (attributes : List (String × String))
    (children : List Node) :
    (element tag attributes children).markup.toList =
      '<' :: (tag.toList ++
        ((Markup.attributesText attributes).toList ++ elementEnd tag children)) := by
  cases children with
  | nil => simp [markup, elementEnd]
  | cons child children =>
    rw [markup_element_of_ne_nil _ _ (List.cons_ne_nil child children)]
    simp [elementEnd]

/-- After the attributes there is a slash or the end of the tag. -/
theorem mem_head?_elementEnd {tag : String} {children : List Node} {x : List Char} {c : Char}
    (h : c ∈ (elementEnd tag children ++ x).head?) : c = '/' ∨ c = '>' := by
  unfold elementEnd at h
  split at h
  · exact .inl (by simpa using h.symm)
  · exact .inr (by simpa using h.symm)

/-- After a tag there is a delimiter, whether it has attributes or not. -/
theorem mem_head?_attributesText_append (attributes : List (String × String)) (tag : String)
    (children : List Node) (x : List Char) : ∀ c ∈
      ((Markup.attributesText attributes).toList ++ (elementEnd tag children ++ x)).head?,
      c ∈ nameDelimiters := by
  intro c hc
  cases attributes with
  | nil =>
    rw [Markup.attributesText, String.toList_empty, List.nil_append] at hc
    rcases mem_head?_elementEnd hc with rfl | rfl <;> decide
  | cons a attributes =>
    rw [Markup.toList_attributesText_cons] at hc
    obtain rfl : ' ' = c := Option.some.inj hc
    decide

/-- A plain node that is no text begins like a tag, but not like a closing one. -/
theorem exists_markup_eq_lt_cons {n : Node} (h : n.Plain) (htext : ¬ n.isText) :
    ∃ c cs, n.markup.toList = '<' :: c :: cs ∧ c ≠ '/' := by
  cases h with
  | text content => exact absurd rfl htext
  | @comment content h => exact ⟨'!', _, toList_markup_comment content, by decide⟩
  | @element tag attributes children htag hattributes hchildren =>
    obtain ⟨c, cs, htag', hc⟩ := htag.exists_toList_eq_cons
    refine ⟨c, _, by rw [toList_markup_element, htag']; rfl, ?_⟩
    rintro rfl
    exact hc (by decide)

/-- A text that is not empty begins with a character that no tag begins with. -/
theorem exists_markup_text_eq_cons {content : String} (h : text content ≠ text "") :
    ∃ c cs, (text content).markup.toList = c :: cs ∧ c ≠ '<' := by
  rw [toList_markup_text]
  cases hcs : Markup.escapeChars content.toList with
  | nil =>
    rw [← Markup.escapeChars_nil] at hcs
    have hempty := String.toList_eq_nil_iff.mp (Markup.escapeChars_injective hcs)
    exact absurd (congrArg text hempty) h
  | cons c cs =>
    refine ⟨c, cs, rfl, ?_⟩
    rintro rfl
    have hmem : '<' ∈ Markup.escapeChars content.toList := by rw [hcs]; exact List.mem_cons_self
    exact Markup.not_mem_delimiters_of_mem_escapeChars hmem (by decide)

/-! ## Reading two lists of children side by side -/

/-- What may follow a list of children: nothing, or a closing tag. -/
def EndsContent (x : List Char) : Prop := x = [] ∨ ∃ cs, x = '<' :: '/' :: cs

theorem EndsContent.not_markup_append {x : List Char} (hx : EndsContent x) {n : Node}
    (hn : n.Plain) (hne : n ≠ .text "") (r : List Char) : x ≠ n.markup.toList ++ r := by
  intro h
  by_cases htext : n.isText
  -- A text does not begin like a tag.
  · cases n with
    | text content =>
      obtain ⟨c, cs, hcs, hc⟩ := exists_markup_text_eq_cons hne
      rw [hcs] at h
      rcases hx with rfl | ⟨cs', rfl⟩
      · cases h
      · exact hc (List.cons.inj h).1.symm
    | _ => cases htext
  -- Any other node begins like a tag, but not like a closing one.
  · obtain ⟨c, cs, hcs, hc⟩ := exists_markup_eq_lt_cons hn htext
    rw [hcs] at h
    rcases hx with rfl | ⟨cs', rfl⟩
    · cases h
    · exact hc (List.cons.inj (List.cons.inj h).2).1.symm

/-- Whatever follows a text in a tidy list begins like a tag. -/
theorem mem_head?_markupAll_append {n : Node} {ns : List Node} (hns : ∀ m ∈ ns, m.Plain)
    (h : Separated (n :: ns)) {x : List Char} (hx : EndsContent x) (hn : n.isText) {c : Char}
    (hc : c ∈ ((markupAll ns).toList ++ x).head?) : c = '<' := by
  cases ns with
  | nil =>
    rw [markupAll, String.toList_empty, List.nil_append] at hc
    rcases hx with rfl | ⟨cs, rfl⟩
    · cases hc
    · exact (Option.some.inj hc).symm
  | cons m ns =>
    have hm : ¬ m.isText := fun hm => (List.isChain_cons_cons.mp h).1 ⟨hn, hm⟩
    obtain ⟨d, cs, hcs, -⟩ := exists_markup_eq_lt_cons (hns m List.mem_cons_self) hm
    rw [markupAll_cons, String.toList_append, hcs] at hc
    exact (Option.some.inj hc).symm

/-- A node is uniquely read when no other node in normal form can stand in its place, whatever
follows. A text has to be followed by something else than text. -/
def UniquelyRead (a : Node) : Prop :=
  ∀ ⦃b : Node⦄, b.Plain → b.Normal → b ≠ .text "" → ∀ ⦃x y : List Char⦄,
    (a.isText → ∀ c ∈ x.head?, c = '<') → (b.isText → ∀ c ∈ y.head?, c = '<') →
    a.markup.toList ++ x = b.markup.toList ++ y → a = b ∧ x = y

/-- Lists of uniquely read nodes are uniquely read up to the end of the content. -/
theorem markupAll_append_inj {as bs : List Node} (hread : ∀ a ∈ as, UniquelyRead a)
    (has : ∀ a ∈ as, a.Plain) (hbs : ∀ b ∈ bs, b.Plain) (hnormal : ∀ b ∈ bs, b.Normal)
    (htidy : Tidy as) (htidy' : Tidy bs) {x y : List Char} (hx : EndsContent x)
    (hy : EndsContent y) (h : (markupAll as).toList ++ x = (markupAll bs).toList ++ y) :
    as = bs ∧ x = y := by
  induction as generalizing bs with
  | nil =>
    cases bs with
    | nil => exact ⟨rfl, by simpa [markupAll] using h⟩
    | cons b bs =>
      rw [markupAll, String.toList_empty, List.nil_append, markupAll_cons, String.toList_append,
        List.append_assoc] at h
      exact absurd h (hx.not_markup_append (hbs b List.mem_cons_self)
        (htidy'.ne_empty b List.mem_cons_self) _)
  | cons a as ih =>
    cases bs with
    | nil =>
      rw [markupAll_cons, markupAll, String.toList_append, String.toList_empty, List.nil_append,
        List.append_assoc] at h
      exact absurd h.symm (hy.not_markup_append (has a List.mem_cons_self)
        (htidy.ne_empty a List.mem_cons_self) _)
    | cons b bs =>
      obtain ⟨ha, has'⟩ := List.forall_mem_cons.mp has
      obtain ⟨hb, hbs'⟩ := List.forall_mem_cons.mp hbs
      obtain ⟨hnormalb, hnormal'⟩ := List.forall_mem_cons.mp hnormal
      obtain ⟨hreada, hread'⟩ := List.forall_mem_cons.mp hread
      obtain ⟨hneb, hne'⟩ := List.forall_mem_cons.mp htidy'.ne_empty
      rw [markupAll_cons, markupAll_cons, String.toList_append, String.toList_append,
        List.append_assoc, List.append_assoc] at h
      -- The first nodes agree, and what is left is the same text again.
      obtain ⟨hab, hrest⟩ := hreada hb hnormalb hneb
        (fun htext c => mem_head?_markupAll_append has' htidy.separated hx htext)
        (fun htext c => mem_head?_markupAll_append hbs' htidy'.separated hy htext) h
      obtain ⟨hlist, hxy⟩ := ih hread' has' hbs' hnormal'
        ⟨(List.isChain_cons.mp htidy.separated).2, (List.forall_mem_cons.mp htidy.ne_empty).2⟩
        ⟨(List.isChain_cons.mp htidy'.separated).2, hne'⟩ hrest
      exact ⟨by rw [hab, hlist], hxy⟩

/-! ## Reading two nodes side by side -/

theorem markup_text_append_ne {content : String} (hne : text content ≠ text "") {n : Node}
    (hn : n.Plain) (htext : ¬ n.isText) (x y : List Char) :
    (text content).markup.toList ++ x ≠ n.markup.toList ++ y := by
  obtain ⟨c, cs, hcs, hc⟩ := exists_markup_text_eq_cons hne
  obtain ⟨d, ds, hds, -⟩ := exists_markup_eq_lt_cons hn htext
  rw [hcs, hds]
  exact fun h => hc (List.cons.inj h).1

theorem markup_comment_append_ne {content tag : String} (htag : PlainName tag)
    (attributes : List (String × String)) (children : List Node) (x y : List Char) :
    (comment content).markup.toList ++ x ≠
      (element tag attributes children).markup.toList ++ y := by
  obtain ⟨c, cs, hcs, hc⟩ := htag.exists_toList_eq_cons
  rw [toList_markup_comment, toList_markup_element, hcs]
  intro h
  -- A tag does not begin with an exclamation mark.
  have hbang : '!' = c := (List.cons.inj (List.cons.inj h).2).1
  exact hc (by rw [← hbang]; decide)

theorem uniquelyRead_text {content : String} (hne : text content ≠ text "") :
    UniquelyRead (text content) := by
  intro b hb _ hneb x y hx hy h
  by_cases htext : b.isText
  · cases b with
    | text content' =>
      rw [toList_markup_text, toList_markup_text] at h
      -- Both texts end at the first `<`, which an escaped text does not hold.
      have hlt : ∀ s : String, ∀ c ∈ Markup.escapeChars s.toList, c ≠ '<' := by
        rintro s c hc rfl
        exact Markup.not_mem_delimiters_of_mem_escapeChars hc (by decide)
      obtain ⟨hcontent, hxy⟩ := eq_of_append_eq_append (hlt content) (hlt content')
        (fun c hc hnot => hnot (hx rfl c hc)) (fun c hc hnot => hnot (hy rfl c hc)) h
      exact ⟨congrArg text (String.toList_inj.mp (Markup.escapeChars_injective hcontent)), hxy⟩
    | _ => cases htext
  · exact absurd h (markup_text_append_ne hne hb htext x y)

theorem uniquelyRead_comment {content : String} (hcontent : ¬ commentEnd <:+: content.toList) :
    UniquelyRead (comment content) := by
  intro b hb _ hneb x y _ _ h
  cases hb with
  | text content' =>
    have hplain : (comment content).Plain := .comment hcontent
    exact absurd h.symm (markup_text_append_ne hneb hplain Bool.false_ne_true y x)
  | @comment content' hcontent' =>
    rw [toList_markup_comment, toList_markup_comment] at h
    simp only [List.cons_append, List.append_assoc, List.cons.injEq, true_and] at h
    obtain ⟨hcs, hxy⟩ := comment_append_inj hcontent hcontent' h
    exact ⟨congrArg comment (String.toList_inj.mp hcs), hxy⟩
  | element htag _ _ => exact absurd h (markup_comment_append_ne htag _ _ x y)

/-- The children of a node in normal form without the empty text that may stand alone. -/
theorem TidyContent.dropEmptyTexts {ns : List Node} (h : TidyContent ns) :
    Tidy (dropEmptyTexts ns) := by
  rcases h with rfl | h
  · exact tidy_dropEmptyTexts (List.isChain_singleton _)
  · exact tidy_dropEmptyTexts h.separated

theorem Tidy.dropEmptyTexts_eq_self {ns : List Node} (h : Tidy ns) : dropEmptyTexts ns = ns :=
  List.filter_eq_self.mpr fun n hn => by simpa using h.ne_empty n hn

/-- Two lists of children that are not empty differ in more than empty texts. -/
theorem eq_of_dropEmptyTexts_eq {as bs : List Node} (has : TidyContent as)
    (hbs : TidyContent bs) (hne : as ≠ []) (hne' : bs ≠ [])
    (h : dropEmptyTexts as = dropEmptyTexts bs) : as = bs := by
  have hnil : dropEmptyTexts [.text ""] = [] := rfl
  -- A tidy list loses nothing; the empty text alone loses all it has.
  rcases has with rfl | has <;> rcases hbs with rfl | hbs
  · rfl
  · rw [hnil, hbs.dropEmptyTexts_eq_self] at h
    exact absurd h.symm hne'
  · rw [hnil, has.dropEmptyTexts_eq_self] at h
    exact absurd h hne
  · rwa [has.dropEmptyTexts_eq_self, hbs.dropEmptyTexts_eq_self] at h

/-- The end of an element tells whether it closes itself, and its children if it does not. -/
theorem elementEnd_append_inj {tag : String} {as bs : List Node}
    (hread : ∀ a ∈ as, a ≠ .text "" → UniquelyRead a) (has : ∀ a ∈ as, a.Plain)
    (hbs : ∀ b ∈ bs, b.Plain) (hnormal : ∀ b ∈ bs, b.Normal)
    (htidy : TidyContent as) (htidy' : TidyContent bs) {x y : List Char}
    (h : elementEnd tag as ++ x = elementEnd tag bs ++ y) : as = bs ∧ x = y := by
  cases as with
  | nil =>
    -- An element that closes itself has a slash where the other one has the end of its tag.
    cases bs with
    | nil => exact ⟨rfl, List.append_cancel_left h⟩
    | cons b bs => exact absurd (List.cons.inj h).1 (by decide)
  | cons a as =>
    cases bs with
    | nil => exact absurd (List.cons.inj h).1 (by decide)
    | cons b bs =>
      have hmem : ∀ {n : Node} {ns : List Node}, n ∈ dropEmptyTexts ns → n ∈ ns :=
        fun hn => (List.mem_filter.mp hn).1
      simp only [elementEnd, List.isEmpty_cons, Bool.false_eq_true, if_false, List.cons_append,
        List.append_assoc, List.cons.injEq, true_and] at h
      -- Both lists are read without the empty text that may stand alone in one of them.
      rw [← markupAll_dropEmptyTexts (a :: as), ← markupAll_dropEmptyTexts (b :: bs)] at h
      obtain ⟨hlist, hrest⟩ := markupAll_append_inj
        (fun n hn => hread n (hmem hn) (htidy.dropEmptyTexts.ne_empty n hn))
        (fun n hn => has n (hmem hn)) (fun n hn => hbs n (hmem hn))
        (fun n hn => hnormal n (hmem hn)) htidy.dropEmptyTexts htidy'.dropEmptyTexts
        (.inr ⟨_, rfl⟩) (.inr ⟨_, rfl⟩) h
      refine ⟨eq_of_dropEmptyTexts_eq htidy htidy' (List.cons_ne_nil a as)
        (List.cons_ne_nil b bs) hlist, ?_⟩
      simpa using hrest

theorem uniquelyRead_element {tag : String} {attributes : List (String × String)}
    {children : List Node} (hplain : (element tag attributes children).Plain)
    (htidy : TidyContent children)
    (hread : ∀ child ∈ children, child ≠ .text "" → UniquelyRead child) :
    UniquelyRead (element tag attributes children) := by
  intro b hb hnormal hneb x y _ _ h
  obtain ⟨htag, hattributes, hchildren⟩ : PlainName tag ∧ (∀ a ∈ attributes, PlainName a.1) ∧
      ∀ child ∈ children, child.Plain := by
    cases hplain with
    | element htag hattributes hchildren => exact ⟨htag, hattributes, hchildren⟩
  cases hb with
  | text content => exact absurd h.symm (markup_text_append_ne hneb hplain Bool.false_ne_true y x)
  | comment _ => exact absurd h.symm (markup_comment_append_ne htag _ _ y x)
  | @element tag' attributes' children' htag' hattributes' hchildren' =>
    cases hnormal with
    | element _ _ htidy' hnormal' =>
      rw [toList_markup_element, toList_markup_element] at h
      simp only [List.cons_append, List.append_assoc, List.cons.injEq, true_and] at h
      -- The tag ends where the attributes begin, and these where the tag is closed.
      obtain ⟨rfl, hafterTag⟩ := htag.append_inj htag' (mem_head?_attributesText_append _ _ _ _)
        (mem_head?_attributesText_append _ _ _ _) h
      have hspace : ∀ (cs : List Node) (z : List Char), ∀ c ∈ (elementEnd tag cs ++ z).head?,
          c ≠ ' ' := by
        rintro cs z c hc rfl
        rcases mem_head?_elementEnd hc with h | h <;> cases h
      obtain ⟨rfl, hend⟩ := Markup.attributesText_append_inj hattributes hattributes'
        (hspace children x) (hspace children' y) hafterTag
      obtain ⟨rfl, hxy⟩ :=
        elementEnd_append_inj hread hchildren hchildren' hnormal' htidy htidy' hend
      exact ⟨rfl, hxy⟩

/-- Every plain node in normal form is uniquely read, an empty text apart. -/
theorem uniquelyRead {n : Node} (hplain : n.Plain) (hnormal : n.Normal) (hne : n ≠ .text "") :
    UniquelyRead n := by
  induction n using treeInduction with
  | text content => exact uniquelyRead_text hne
  | raw content => cases hplain
  | comment content =>
    cases hplain with
    | comment h => exact uniquelyRead_comment h
  | element tag attributes children ih =>
    cases hnormal with
    | element _ _ htidy hnormal =>
      refine uniquelyRead_element hplain htidy fun child hchild hchildne => ?_
      cases hplain with
      | element _ _ hchildren =>
        exact ih child hchild (hchildren child hchild) (hnormal child hchild) hchildne

/-- Plain nodes in normal form that are written alike are equal. -/
theorem eq_of_markup_eq {m n : Node} (hm : m.Plain) (hn : n.Plain) (hm' : m.Normal)
    (hn' : n.Normal) (h : m.markup = n.markup) : m = n := by
  have happend : m.markup.toList ++ [] = n.markup.toList ++ [] := by rw [h]
  -- An empty text leaves nothing, which no other node does.
  have hempty : ∀ k : Node, k.Plain → k ≠ .text "" → (text "").markup ≠ k.markup := by
    intro k hk hne heq
    have hends : EndsContent [] := .inl rfl
    refine hends.not_markup_append hk hne [] ?_
    rw [← heq]
    rfl
  by_cases hmempty : m = .text ""
  · by_contra hne
    subst hmempty
    exact hempty n hn (fun hnempty => hne hnempty.symm) h
  -- Neither is the empty text, so both are uniquely read, with nothing after them.
  · by_cases hnempty : n = .text ""
    · subst hnempty
      exact absurd h.symm (hempty m hm hmempty)
    · exact (uniquelyRead hm hm' hmempty hn hn' hnempty (by simp) (by simp) happend).1

/-- A node and its normal form are written alike, and two plain nodes are written alike exactly when
their normal forms are equal. -/
theorem markup_normalize_and_markup_eq_iff :
    (∀ n : Node, n.normalize.markup = n.markup) ∧
      ∀ m n : Node, m.Plain → n.Plain → (m.markup = n.markup ↔ m.normalize = n.normalize) := by
  refine ⟨markup_normalize, fun m n hm hn => ⟨fun h => ?_, fun h => ?_⟩⟩
  · rw [← markup_normalize m, ← markup_normalize n] at h
    exact eq_of_markup_eq hm.normalize hn.normalize (normal_normalize m) (normal_normalize n) h
  · rw [← markup_normalize m, ← markup_normalize n, h]

/-- A paragraph whose text is cut in two, next to one with an empty text at its end. -/
theorem normalize_eq_of_split_text :
    let m : Node := .element "p" [("id", "x")] [.text "a", .text "<b", .comment "--"]
    let n : Node := .element "p" [("id", "x")] [.text "a<b", .comment "--", .text ""]
    m.Plain ∧ n.Plain ∧ m.markup = n.markup ∧ m.normalize = n.normalize := by
  have htag : PlainName "p" := by decide
  have hattributes : ∀ a ∈ [("id", "x")], PlainName a.1 := by decide
  have hcomment : (comment "--").Plain := .comment (by decide)
  have hm : (element "p" [("id", "x")] [.text "a", .text "<b", .comment "--"]).Plain :=
    .element htag hattributes (by simp [hcomment, Plain.text])
  have hn : (element "p" [("id", "x")] [.text "a<b", .comment "--", .text ""]).Plain :=
    .element htag hattributes (by simp [hcomment, Plain.text])
  have hmarkup : (element "p" [("id", "x")] [.text "a", .text "<b", .comment "--"]).markup =
      (element "p" [("id", "x")] [.text "a<b", .comment "--", .text ""]).markup := by
    decide
  exact ⟨hm, hn, hmarkup, (markup_normalize_and_markup_eq_iff.2 _ _ hm hn).mp hmarkup⟩

end Node

end MarkupTree
