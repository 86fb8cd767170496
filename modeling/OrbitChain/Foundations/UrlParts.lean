import OrbitChain.Foundations.FormEncoding

/-!
# The parts of a URL

A URL is cut at the first number sign into what is fetched and a fragment, and what is fetched at
its first question mark into a base and a query. Texts and their parts determine each other
(`parse_href`, `href_parse`). The query is a form: `params` reads it, `setParams` writes it.
-/

set_option autoImplicit false
set_option relaxedAutoImplicit false

namespace OrbitChain.Foundations

/-! ### Cutting a text in two -/

/-- A part behind a sign, if there is one. -/
def behind (sign : Char) : Option (List Char) → List Char
  | none => []
  | some part => sign :: part

/-- A text before the first occurrence of a sign, and what is behind it. -/
def cut (sign : Char) (text : List Char) : List Char × Option (List Char) :=
  match splitOnce sign text with
  | some (before, after) => (before, some after)
  | none => (text, none)

section Cut

variable {sign : Char} {text before : List Char} {after : Option (List Char)}

theorem splitOnce_eq_none_iff : splitOnce sign text = none ↔ sign ∉ text := by
  rw [Option.eq_none_iff_forall_ne_some]
  constructor
  · intro h hmem
    obtain ⟨before, after, rfl, hbefore⟩ := List.eq_append_cons_of_mem hmem
    exact h _ (splitOnce_append hbefore)
  · rintro h ⟨before, after⟩ hsplit
    obtain ⟨rfl, -⟩ := splitOnce_eq_some_iff.mp hsplit
    exact h (by simp)

theorem cut_append (h : sign ∉ before) : cut sign (before ++ behind sign after) =
    (before, after) := by
  cases after with
  | none => rw [behind, List.append_nil, cut, splitOnce_eq_none_iff.mpr h]
  | some part => rw [behind, cut, splitOnce_append h]

theorem cut_spec (sign : Char) (text : List Char) :
    text = (cut sign text).1 ++ behind sign (cut sign text).2 ∧ sign ∉ (cut sign text).1 := by
  unfold cut
  split
  · rename_i before after hsplit
    exact splitOnce_eq_some_iff.mp hsplit
  · rename_i hnone
    exact ⟨(List.append_nil text).symm, splitOnce_eq_none_iff.mp hnone⟩

end Cut

/-! ### URLs -/

/-- A URL in parts. The base is what stands before the query. -/
@[ext]
structure UrlParts where
  base : List Char
  query : Option (List Char)
  fragment : Option (List Char)
  base_plain : '?' ∉ base ∧ '#' ∉ base
  query_plain : ∀ text, query = some text → '#' ∉ text

namespace UrlParts

variable (url : UrlParts)

/-- What is fetched. -/
def front : List Char := url.base ++ behind '?' url.query

/-- The text of a URL. -/
def href : List Char := url.front ++ behind '#' url.fragment

theorem front_plain : '#' ∉ url.front := by
  rw [front, List.mem_append, not_or]
  refine ⟨url.base_plain.2, ?_⟩
  cases hquery : url.query with
  | none => exact List.not_mem_nil
  | some text => simpa [behind] using url.query_plain text hquery

/-- The parts of a text. -/
def parse (text : List Char) : UrlParts where
  base := (cut '?' (cut '#' text).1).1
  query := (cut '?' (cut '#' text).1).2
  fragment := (cut '#' text).2
  base_plain := by
    obtain ⟨hfront, hbase⟩ := cut_spec '?' (cut '#' text).1
    refine ⟨hbase, fun hmem ↦ (cut_spec '#' text).2 ?_⟩
    rw [hfront]
    exact List.mem_append_left _ hmem
  query_plain query hquery hmem := by
    obtain ⟨hfront, -⟩ := cut_spec '?' (cut '#' text).1
    refine (cut_spec '#' text).2 ?_
    rw [hfront, hquery]
    exact List.mem_append_right _ (List.mem_cons_of_mem _ hmem)

@[simp] theorem parse_href : parse url.href = url := by
  have hfragment : cut '#' url.href = (url.front, url.fragment) := cut_append url.front_plain
  have hquery : cut '?' url.front = (url.base, url.query) := cut_append url.base_plain.1
  ext1 <;> simp only [parse, hfragment, hquery]

@[simp] theorem href_parse (text : List Char) : (parse text).href = text := by
  rw [href, front]
  show (cut '?' (cut '#' text).1).1 ++ behind '?' (cut '?' (cut '#' text).1).2 ++
    behind '#' (cut '#' text).2 = text
  rw [← (cut_spec '?' (cut '#' text).1).1, ← (cut_spec '#' text).1]

/-- A part as it is shown behind a sign: an empty part is shown as none. -/
def shown (sign : Char) : Option (List Char) → List Char
  | some (c :: part) => sign :: c :: part
  | _ => []

/-- The query with its question mark. -/
def search : List Char := shown '?' url.query

/-- The fragment with its number sign. -/
def hash : List Char := shown '#' url.fragment

/-! ### Parameters -/

variable (decoder : Utf8Decoder)

/-- The named values of the query. -/
def params : List (List Char × List Char) := formParse decoder (url.query.getD [])

end UrlParts

/-- No separator but the ampersand and the equals sign stands in a field. -/
theorem notMem_field {escape : Char → List Char} (h : Escape escape)
    (pair : List Char × List Char) {sign : Char} (hsign : sign ∈ separators) (hne : sign ≠ '=') :
    sign ∉ field escape pair := by
  rw [field, List.mem_append, List.mem_cons]
  simp only [h.notMem pair.1 hsign, h.notMem pair.2 hsign, hne, or_false, not_false_eq_true]

theorem numberSign_notMem_formSerialize (pairs : List (List Char × List Char)) :
    '#' ∉ formSerialize pairs := by
  have hfield (pair : List Char × List Char) : '#' ∉ field formEscape pair :=
    notMem_field escape_formEscape pair (by decide) (by decide)
  induction pairs with
  | nil => exact List.not_mem_nil
  | cons pair rest ih =>
    cases rest with
    | nil => simpa [formSerialize, List.intercalate_singleton] using hfield pair
    | cons other rest =>
      have hcons : formSerialize (pair :: other :: rest) =
          field formEscape pair ++ '&' :: formSerialize (other :: rest) := by
        simp [formSerialize, List.intercalate_cons_cons]
      rw [hcons, List.mem_append, List.mem_cons]
      simp only [hfield pair, ih, or_false, false_or]
      decide

namespace UrlParts

variable (url : UrlParts) (decoder : Utf8Decoder)

/-- The URL with other parameters. A query without parameters is dropped. -/
def setParams (pairs : List (List Char × List Char)) : UrlParts where
  base := url.base
  query := if formSerialize pairs = [] then none else some (formSerialize pairs)
  fragment := url.fragment
  base_plain := url.base_plain
  query_plain query hquery := by
    split_ifs at hquery
    obtain rfl := Option.some.inj hquery
    exact numberSign_notMem_formSerialize pairs

@[simp] theorem params_setParams (pairs : List (List Char × List Char)) :
    (url.setParams pairs).params decoder = pairs := by
  have hquery : (url.setParams pairs).query.getD [] = formSerialize pairs := by
    unfold setParams
    dsimp only
    split_ifs with hnil
    · exact hnil.symm
    · rfl
  rw [params, hquery, formParse_formSerialize]

/-! ### Writing at the end of a URL -/

section Append

variable {url} {text : List Char}

/-- Behind a fragment a text is more of the fragment. -/
theorem parse_append_fragment {fragment : List Char} (h : url.fragment = some fragment)
    (text : List Char) : (parse (url.href ++ text)).base = url.base ∧
      (parse (url.href ++ text)).query = url.query ∧
      (parse (url.href ++ text)).fragment = some (fragment ++ text) := by
  have hhref : url.href ++ text =
      ({ url with fragment := some (fragment ++ text) } : UrlParts).href := by
    simp [href, front, behind, h]
  rw [hhref, parse_href]
  exact ⟨rfl, rfl, rfl⟩

/-- Behind a query a text is more parameters. -/
theorem parse_append_query {query : List Char} (hquery : url.query = some query)
    (hfragment : url.fragment = none) (htext : '#' ∉ text) :
    (parse (url.href ++ '&' :: text)).base = url.base ∧
      (parse (url.href ++ '&' :: text)).query = some (query ++ '&' :: text) ∧
      (parse (url.href ++ '&' :: text)).fragment = none ∧
      (parse (url.href ++ '&' :: text)).params decoder =
        url.params decoder ++ formParse decoder text := by
  have hplain : ∀ longer, some (query ++ '&' :: text) = some longer → '#' ∉ longer := by
    rintro _ ⟨⟩
    simp [url.query_plain query hquery, htext]
  have hhref : url.href ++ '&' :: text = ({ url with
      query := some (query ++ '&' :: text), query_plain := hplain } : UrlParts).href := by
    simp [href, front, behind, hquery, hfragment]
  rw [hhref, parse_href]
  refine ⟨rfl, rfl, hfragment, ?_⟩
  simp only [params, hquery, Option.getD_some, formParse_append]

/-- Behind a base a text is the parameters. -/
theorem parse_append_base (hquery : url.query = none) (hfragment : url.fragment = none)
    (htext : '#' ∉ text) :
    (parse (url.href ++ '?' :: text)).base = url.base ∧
      (parse (url.href ++ '?' :: text)).query = some text ∧
      (parse (url.href ++ '?' :: text)).fragment = none ∧
      (parse (url.href ++ '?' :: text)).params decoder =
        url.params decoder ++ formParse decoder text := by
  have hplain : ∀ query, some text = some query → '#' ∉ query := by
    rintro _ ⟨⟩
    exact htext
  have hhref : url.href ++ '?' :: text = ({ url with
      query := some text, query_plain := hplain } : UrlParts).href := by
    simp [href, front, behind, hquery, hfragment]
  rw [hhref, parse_href]
  refine ⟨rfl, rfl, hfragment, ?_⟩
  simp only [params, hquery, Option.getD_none, Option.getD_some, formParse_nil, List.nil_append]

end Append

end UrlParts

end OrbitChain.Foundations
