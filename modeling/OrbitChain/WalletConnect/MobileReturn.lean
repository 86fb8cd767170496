import OrbitChain.Foundations.ExceptSteps
import OrbitChain.Foundations.UrlParts
import OrbitChain.Tools.TextFiles

/-!
# The way to a mobile wallet and back

The page asks the authentication server for a challenge and sends the browser to the wallet by a
deep link with the challenge and a callback URL in its query. The callback URL is the page's own,
without what an earlier return has left in it, with one parameter more. The wallet comes back to
it with the signed challenge as another parameter; the page submits what it finds there and cleans
its URL.

The deep link is read back whatever the challenge and the URL are, and the return is seen exactly
when the URL of the page has no fragment: the parameter is put at the end of the URL, and behind a
number sign it is no parameter (`mobile_handshake`).

The page rebuilds its URL from the origin and the path. These are its whole base where the scheme
has an origin, as `http` and `https` have, and the URL has no credentials; any other page is left
for a URL that is not its own, and of its returns nothing is said.
-/

set_option autoImplicit false
set_option relaxedAutoImplicit false

namespace OrbitChain.WalletConnect

open Foundations

namespace Mobile

abbrev Text := List Char

/-! ### The deep link -/

/-- What `encodeURIComponent` does not escape. -/
def uriKeep (c : Char) : Bool := c.isAlphanum || c ∈ "-_.!~*'()".toList

/-- `encodeURIComponent` -/
def encodeURIComponent (text : Text) : Text := text.flatMap (percentEscape uriKeep)

def sep7Query (xdr callbackUrl : Text) : Text :=
  "xdr=".toList ++ encodeURIComponent xdr ++ "&callback=".toList ++
    encodeURIComponent ("url:".toList ++ callbackUrl)

def sep7TxUri (xdr callbackUrl : Text) : Text :=
  "web+stellar:tx?".toList ++ sep7Query xdr callbackUrl

def returnParam : Text := "orbitchain_xdr".toList

def xdrParam : Text := "xdr".toList

/-- `new URL(href)` with the two parameters of a return deleted. -/
def withoutReturn (decoder : Utf8Decoder) (url : UrlParts) : UrlParts :=
  url.setParams (((url.params decoder).filter fun pair ↦ pair.1 ≠ returnParam).filter
    fun pair ↦ pair.1 ≠ xdrParam)

/-- What a browser shows of the base of a URL. -/
structure Browser where
  origin : Text → Text
  pathname : Text → Text

/-- The origin and the path are the whole base. -/
def Browser.Whole (browser : Browser) (base : Text) : Prop :=
  browser.origin base ++ browser.pathname base = base

def stripReturnParam (browser : Browser) (decoder : Utf8Decoder) (href : Text) : Text :=
  let url := withoutReturn decoder (UrlParts.parse href)
  browser.origin url.base ++ browser.pathname url.base ++ url.search ++ url.hash

/-- The URL that the wallet is told to come back to. -/
def callbackUrl (browser : Browser) (decoder : Utf8Decoder) (href : Text) : Text :=
  let returnUrl := stripReturnParam browser decoder href
  let separator := if '?' ∉ returnUrl then '?' else '&'
  returnUrl ++ separator :: (returnParam ++ "=1".toList)

/-- What comes of a request to the authentication server. -/
inductive Reply (α : Type)
  | failed (message : String)
  | status (code : ℕ)
  | received (value : α)

/-- The server and this page. -/
structure Site where
  authServer : Text
  homeDomain : Text

/-- The URL that a challenge is fetched from. -/
def challengeUrl (site : Site) (account : Text) : Text :=
  site.authServer ++ "/auth?account=".toList ++ encodeURIComponent account ++
    "&home_domain=".toList ++ encodeURIComponent site.homeDomain

/-- The challenge that the server replies with, or why there is none. -/
def fetchChallenge (site : Site) (server : Text → Reply Text) (account : Text) :
    Except String Text :=
  match server (challengeUrl site account) with
  | .failed message => .error message
  | .status code => .error ("SEP-10 challenge request failed: HTTP " ++ toString code)
  | .received transaction => .ok transaction

/-- The number of UTF-16 units of a text: a character above the basic plane takes two. -/
def utf16Length (text : Text) : ℕ := text.length + text.countP fun c ↦ 0x10000 ≤ c.toNat

/-- The deep link that the browser is sent to. -/
def startMobileConnect (browser : Browser) (decoder : Utf8Decoder) (site : Site)
    (server : Text → Reply Text) (href account : Text) : Except String Text := do
  failIf (account.head? ≠ some 'G' ∨ utf16Length account ≠ 56)
    "Enter a valid Stellar public key (starts with G, 56 chars)."
  let transaction ← fetchChallenge site server account
  pure (sep7TxUri transaction (callbackUrl browser decoder href))

/-! ### The return -/

/-- How a return is handled. -/
inductive Handled
  | rejected (message : String)
  | completed (token cleanUrl : Text)
  deriving DecidableEq

/-- The value of the first parameter of a name. -/
def getParam (params : List (Text × Text)) (name : Text) : Option Text :=
  (params.find? fun pair ↦ pair.1 = name).map Prod.snd

/-- What the page does with a signed challenge that is submitted. -/
def submitSignedChallenge (submit : Text → Reply Text) (signedXdr cleanUrl : Text) : Handled :=
  match submit signedXdr with
  | .failed message => .rejected message
  | .status code => .rejected ("SEP-10 verification failed: HTTP " ++ toString code)
  | .received token => .completed token cleanUrl

/-- What the page does on load, if it finds itself returned to. -/
def handleMobileReturn (browser : Browser) (decoder : Utf8Decoder) (submit : Text → Reply Text)
    (href : Text) : Option Handled :=
  let params := (UrlParts.parse href).params decoder
  if (getParam params returnParam).isNone then none
  else match getParam params xdrParam with
    | none | some [] => some (.rejected "Wallet returned without a signed transaction.")
    | some (c :: signedXdr) => some (submitSignedChallenge submit (c :: signedXdr)
        (stripReturnParam browser decoder href))

/-! ### The wallet -/

/-- What a wallet reads in a deep link: a transaction and a callback URL. -/
def readDeepLink (decoder : Utf8Decoder) (link : Text) : Option (Text × Text) :=
  match splitOnce '?' link with
  | none => none
  | some (scheme, query) =>
    if scheme = "web+stellar:tx".toList then
      match formParse decoder query with
      | [(xdrName, xdr), (callbackName, callback)] =>
        if xdrName = "xdr".toList ∧ callbackName = "callback".toList ∧
            callback.take 4 = "url:".toList then
          some (xdr, callback.drop 4)
        else none
      | _ => none
    else none

/-- A wallet comes back to a callback URL with a signed transaction: it writes the parameter at the
end of the URL, or adds it to the query. -/
inductive ReturnsTo (decoder : Utf8Decoder) (callback signedXdr : Text) : Text → Prop
  | written {escape : Char → Text} (h : Escape escape) :
      ReturnsTo decoder callback signedXdr
        (callback ++ '&' :: field escape (xdrParam, signedXdr))
  | added {landed : UrlParts} (hbase : landed.base = (UrlParts.parse callback).base)
      (hfragment : landed.fragment = (UrlParts.parse callback).fragment)
      (hparams : landed.params decoder =
        (UrlParts.parse callback).params decoder ++ [(xdrParam, signedXdr)]) :
      ReturnsTo decoder callback signedXdr landed.href

/-! ### The URL to come back to -/

section Callback

variable {browser : Browser} {decoder : Utf8Decoder} {url : UrlParts}

theorem escape_encodeURIComponent : Escape (percentEscape uriKeep) :=
  escape_percentEscape (by decide) (by decide) (forall_separators.mpr (by decide))

/-- The parameters of the page without those of a return. -/
def keptParams (decoder : Utf8Decoder) (url : UrlParts) : List (Text × Text) :=
  ((url.params decoder).filter fun pair ↦ pair.1 ≠ returnParam).filter
    fun pair ↦ pair.1 ≠ xdrParam

theorem mem_keptParams {pair : Text × Text} (h : pair ∈ keptParams decoder url) :
    pair.1 ≠ returnParam ∧ pair.1 ≠ xdrParam := by
  simp only [keptParams, List.mem_filter, decide_eq_true_eq] at h
  exact ⟨h.1.2, h.2⟩

/-- The stripped URL has the base, if that is whole, the kept parameters and the fragment as it is
shown. -/
theorem stripReturnParam_href (decoder : Utf8Decoder) (hwhole : browser.Whole url.base) :
    stripReturnParam browser decoder url.href = (withoutReturn decoder url).front ++ url.hash := by
  have hbase : browser.origin (withoutReturn decoder url).base ++
      browser.pathname (withoutReturn decoder url).base = url.base := hwhole
  have hsearch : (withoutReturn decoder url).search =
      behind '?' (withoutReturn decoder url).query := by
    unfold withoutReturn UrlParts.search UrlParts.setParams
    dsimp only
    split_ifs with hnil
    · rfl
    · obtain ⟨c, text, hcons⟩ := List.exists_cons_of_ne_nil hnil
      rw [hcons]
      rfl
  rw [stripReturnParam, UrlParts.parse_href, hbase, hsearch]
  rfl

theorem params_withoutReturn :
    (withoutReturn decoder url).params decoder = keptParams decoder url :=
  UrlParts.params_setParams url decoder _

/-- The parameter of a return as it is written. -/
theorem returnParam_eq_field :
    returnParam ++ "=1".toList = field formEscape (returnParam, ['1']) := by decide +kernel

/-- A question mark stands in front of the fragment when there is a query. -/
theorem questionMark_mem_front_iff : '?' ∈ url.front ↔ url.query ≠ none := by
  rw [UrlParts.front, List.mem_append]
  cases hquery : url.query with
  | none => simp [behind, url.base_plain.1]
  | some query => simp [behind]

/-- The callback URL of a page without a fragment has the parameter of a return. -/
theorem callbackUrl_of_hash_eq_nil (decoder : Utf8Decoder) (hwhole : browser.Whole url.base)
    (hhash : url.hash = []) :
    (UrlParts.parse (callbackUrl browser decoder url.href)).base = url.base ∧
      (UrlParts.parse (callbackUrl browser decoder url.href)).query ≠ none ∧
      (UrlParts.parse (callbackUrl browser decoder url.href)).fragment = none ∧
      (UrlParts.parse (callbackUrl browser decoder url.href)).params decoder =
        keptParams decoder url ++ [(returnParam, ['1'])] := by
  let bare : UrlParts := { withoutReturn decoder url with fragment := none }
  have hbare : stripReturnParam browser decoder url.href = bare.href := by
    rw [stripReturnParam_href decoder hwhole, hhash]
    rfl
  have hfront : bare.href = bare.front := List.append_nil _
  have hplain : '#' ∉ field formEscape (returnParam, ['1']) :=
    notMem_field escape_formEscape _ (by decide) (by decide)
  have hkept : bare.params decoder = keptParams decoder url := params_withoutReturn
  have hfield : formParse decoder (field formEscape (returnParam, ['1'])) =
      [(returnParam, ['1'])] := formParse_field escape_formEscape _
  rw [callbackUrl, hbare, returnParam_eq_field, ← hkept, ← hfield]
  cases hquery : bare.query with
  | none =>
    have hsign : '?' ∉ bare.href := by
      rw [hfront, questionMark_mem_front_iff, hquery]
      simp
    rw [if_pos hsign]
    obtain ⟨hbase, hquery', hfragment, hparams⟩ :=
      UrlParts.parse_append_base decoder hquery rfl hplain
    exact ⟨hbase, by simp [hquery'], hfragment, hparams⟩
  | some query =>
    have hsign : ¬ '?' ∉ bare.href := by
      rw [hfront, not_not, questionMark_mem_front_iff, hquery]
      exact Option.some_ne_none query
    rw [if_neg hsign]
    obtain ⟨hbase, hquery', hfragment, hparams⟩ :=
      UrlParts.parse_append_query decoder hquery rfl hplain
    exact ⟨hbase, by simp [hquery'], hfragment, hparams⟩

theorem exists_fragment (hhash : url.hash ≠ []) : ∃ fragment, url.fragment = some fragment ∧
    url.hash = '#' :: fragment := by
  unfold UrlParts.hash UrlParts.shown at hhash ⊢
  split at hhash
  · rename_i c part hfragment
    exact ⟨c :: part, hfragment, rfl⟩
  · exact absurd rfl hhash

/-- The callback URL of a page with a fragment has it in the fragment. -/
theorem callbackUrl_of_hash_ne_nil (decoder : Utf8Decoder) (hwhole : browser.Whole url.base)
    (hhash : url.hash ≠ []) :
    (UrlParts.parse (callbackUrl browser decoder url.href)).fragment ≠ none ∧
      (UrlParts.parse (callbackUrl browser decoder url.href)).params decoder =
        keptParams decoder url := by
  obtain ⟨fragment, hfragment, hshown⟩ := exists_fragment hhash
  have hstrip : stripReturnParam browser decoder url.href = (withoutReturn decoder url).href := by
    have hkept : (withoutReturn decoder url).fragment = some fragment := hfragment
    rw [stripReturnParam_href decoder hwhole, hshown, UrlParts.href, hkept]
    rfl
  have happend (text : Text) :
      (UrlParts.parse ((withoutReturn decoder url).href ++ text)).fragment ≠ none ∧
        (UrlParts.parse ((withoutReturn decoder url).href ++ text)).params decoder =
          keptParams decoder url := by
    have hkept : (withoutReturn decoder url).fragment = some fragment := hfragment
    obtain ⟨-, hquery, hlonger⟩ := UrlParts.parse_append_fragment hkept text
    refine ⟨by simp [hlonger], ?_⟩
    rw [UrlParts.params, hquery]
    exact params_withoutReturn
  rw [callbackUrl, hstrip]
  exact happend _

/-! ### Coming back -/

variable {signedXdr landed : Text}

/-- A return to the callback URL of a page without a fragment brings the signed transaction to the
page. -/
theorem ReturnsTo.of_hash_eq_nil
    (h : ReturnsTo decoder (callbackUrl browser decoder url.href) signedXdr landed)
    (hwhole : browser.Whole url.base) (hhash : url.hash = []) :
    (UrlParts.parse landed).base = url.base ∧ (UrlParts.parse landed).fragment = none ∧
      (UrlParts.parse landed).params decoder =
        keptParams decoder url ++ [(returnParam, ['1'])] ++ [(xdrParam, signedXdr)] := by
  obtain ⟨hbase, hquery, hfragment, hparams⟩ :=
    callbackUrl_of_hash_eq_nil decoder hwhole hhash
  cases h with
  | written hescape =>
    obtain ⟨query, hquery⟩ := Option.ne_none_iff_exists'.mp hquery
    have hplain := notMem_field hescape (xdrParam, signedXdr) (by decide : '#' ∈ separators)
      (by decide)
    obtain ⟨hbase', -, hfragment', hparams'⟩ :=
      UrlParts.parse_append_query decoder hquery hfragment hplain
    rw [UrlParts.href_parse] at hbase' hfragment' hparams'
    rw [hparams, formParse_field hescape] at hparams'
    exact ⟨hbase'.trans hbase, hfragment', hparams'⟩
  | added hbase' hfragment' hparams' =>
    rw [UrlParts.parse_href, hparams', hparams]
    exact ⟨hbase'.trans hbase, hfragment'.trans hfragment, rfl⟩

/-- No return to the callback URL of a page with a fragment has the parameter of a return. -/
theorem ReturnsTo.of_hash_ne_nil
    (h : ReturnsTo decoder (callbackUrl browser decoder url.href) signedXdr landed)
    (hwhole : browser.Whole url.base) (hhash : url.hash ≠ []) :
    ∀ pair ∈ (UrlParts.parse landed).params decoder, pair.1 ≠ returnParam := by
  obtain ⟨hfragment, hparams⟩ := callbackUrl_of_hash_ne_nil decoder hwhole hhash
  cases h with
  | @written escape hescape =>
    obtain ⟨fragment, hfragment⟩ := Option.ne_none_iff_exists'.mp hfragment
    obtain ⟨-, hquery, -⟩ := UrlParts.parse_append_fragment hfragment
      ('&' :: field escape (xdrParam, signedXdr))
    rw [UrlParts.href_parse] at hquery
    rw [UrlParts.params, hquery]
    intro pair hpair
    rw [← UrlParts.params, hparams] at hpair
    exact (mem_keptParams hpair).1
  | added _ _ hparams' =>
    rw [UrlParts.parse_href, hparams', hparams]
    intro pair hpair
    rcases List.mem_append.mp hpair with hkept | hadded
    · exact (mem_keptParams hkept).1
    · rw [List.mem_singleton.mp hadded]
      exact (by decide : xdrParam ≠ returnParam)

/-! ### The handshake -/

/-- A parameter behind others of other names is the first of its name. -/
theorem getParam_append {params rest : List (Text × Text)} {name value : Text}
    (h : ∀ pair ∈ params, pair.1 ≠ name) :
    getParam (params ++ (name, value) :: rest) name = some value := by
  have hnone : params.find? (fun pair ↦ pair.1 = name) = none :=
    List.find?_eq_none.mpr fun pair hpair ↦ by simpa using h pair hpair
  rw [getParam, List.find?_append, hnone, Option.none_or, List.find?_cons_of_pos (by simp)]
  rfl

/-- Stripping what a return has left at a page without a fragment leads back to the page. -/
theorem stripReturnParam_of_return
    (h : ReturnsTo decoder (callbackUrl browser decoder url.href) signedXdr landed)
    (hwhole : browser.Whole url.base) (hhash : url.hash = []) :
    stripReturnParam browser decoder landed = (withoutReturn decoder url).front := by
  obtain ⟨hbase, hfragment, hparams⟩ := h.of_hash_eq_nil hwhole hhash
  have hkept : keptParams decoder (UrlParts.parse landed) = keptParams decoder url := by
    have hother : ∀ pair ∈ keptParams decoder url,
        decide (pair.1 ≠ returnParam) = true ∧ decide (pair.1 ≠ xdrParam) = true := by
      intro pair hpair
      obtain ⟨hreturn, hxdr⟩ := mem_keptParams hpair
      exact ⟨decide_eq_true hreturn, decide_eq_true hxdr⟩
    rw [keptParams, hparams, List.filter_append, List.filter_append, List.filter_append,
      List.filter_append, List.filter_eq_self.mpr fun pair hpair ↦ (hother pair hpair).1,
      List.filter_eq_self.mpr fun pair hpair ↦ (hother pair hpair).2]
    simp [show xdrParam ≠ returnParam by decide]
  have hfront : (withoutReturn decoder (UrlParts.parse landed)).front =
      (withoutReturn decoder url).front := by
    show (UrlParts.parse landed).base ++ behind '?' ((UrlParts.parse landed).setParams
      (keptParams decoder (UrlParts.parse landed))).query = _
    rw [hbase, hkept]
    rfl
  have hlanded : (UrlParts.parse landed).hash = [] := by
    rw [UrlParts.hash, hfragment]
    rfl
  have hparsed := stripReturnParam_href decoder (hbase.symm ▸ hwhole)
  rw [UrlParts.href_parse] at hparsed
  rw [hparsed, hlanded, hfront, List.append_nil]

/-- What a return with a transaction comes to: nothing at a page with a fragment, and elsewhere the
submission of the transaction and the URL of the page again, without what a return has left. -/
def outcome (decoder : Utf8Decoder) (submit : Text → Reply Text) (href signedXdr : Text) :
    Option Handled :=
  if (UrlParts.parse href).hash ≠ [] then none
  else if signedXdr = [] then some (.rejected "Wallet returned without a signed transaction.")
  else some (submitSignedChallenge submit signedXdr
    (withoutReturn decoder (UrlParts.parse href)).front)

theorem handleMobileReturn_of_return
    (h : ReturnsTo decoder (callbackUrl browser decoder url.href) signedXdr landed)
    (hwhole : browser.Whole url.base) (submit : Text → Reply Text) :
    handleMobileReturn browser decoder submit landed =
      outcome decoder submit url.href signedXdr := by
  rw [outcome, UrlParts.parse_href]
  by_cases hhash : url.hash = []
  · obtain ⟨-, -, hparams⟩ := h.of_hash_eq_nil hwhole hhash
    have hother (name : Text) (hname : name = returnParam ∨ name = xdrParam) :
        ∀ pair ∈ keptParams decoder url, pair.1 ≠ name := by
      intro pair hpair
      rcases hname with rfl | rfl
      · exact (mem_keptParams hpair).1
      · exact (mem_keptParams hpair).2
    have hreturn : getParam ((UrlParts.parse landed).params decoder) returnParam = some ['1'] := by
      rw [hparams, List.append_assoc]
      exact getParam_append (hother _ (.inl rfl))
    have hxdr : getParam ((UrlParts.parse landed).params decoder) xdrParam = some signedXdr := by
      rw [hparams]
      refine getParam_append fun pair hpair ↦ ?_
      rcases List.mem_append.mp hpair with hkept | hadded
      · exact hother _ (.inr rfl) pair hkept
      · rw [List.mem_singleton.mp hadded]
        exact (by decide : returnParam ≠ xdrParam)
    rw [handleMobileReturn, hreturn, hxdr, stripReturnParam_of_return h hwhole hhash,
      if_neg (not_not.mpr hhash)]
    cases signedXdr <;> rfl
  · have hnone : getParam ((UrlParts.parse landed).params decoder) returnParam = none := by
      rw [getParam, List.find?_eq_none.mpr]
      · rfl
      · simpa using h.of_hash_ne_nil hwhole hhash
    rw [handleMobileReturn, hnone, if_pos hhash]
    rfl

/-- A wallet reads in the deep link what the page wrote into it. -/
theorem readDeepLink_sep7TxUri (xdr callback : Text) :
    readDeepLink decoder (sep7TxUri xdr callback) = some (xdr, callback) := by
  have hlink : sep7TxUri xdr callback = "web+stellar:tx".toList ++ '?' :: sep7Query xdr callback :=
    rfl
  have hquery : sep7Query xdr callback =
      field (percentEscape uriKeep) ("xdr".toList, xdr) ++
        '&' :: field (percentEscape uriKeep) ("callback".toList, "url:".toList ++ callback) := by
    have hxdr : "xdr".toList.flatMap (percentEscape uriKeep) = "xdr".toList := by decide
    have hcallback : "callback".toList.flatMap (percentEscape uriKeep) = "callback".toList := by
      decide
    rw [field, field, hxdr, hcallback]
    simp [sep7Query, encodeURIComponent]
  have hscheme : '?' ∉ "web+stellar:tx".toList := by decide
  rw [readDeepLink, hlink, splitOnce_append hscheme]
  simp only [hquery, formParse_append, formParse_field escape_encodeURIComponent]
  simp

end Callback

/-- The wallet reads the challenge of the server and a callback URL in the deep link. That URL
begins with the origin and the path of the page, and if these are the whole base, every return to it
has its outcome. -/
structure Handshake (browser : Browser) (decoder : Utf8Decoder) (site : Site)
    (server : Text → Reply Text) (href account link transaction callback : Text) : Prop where
  challenged : server (challengeUrl site account) = .received transaction
  read : readDeepLink decoder link = some (transaction, callback)
  leads : browser.origin (UrlParts.parse href).base ++
    browser.pathname (UrlParts.parse href).base <+: callback
  returned : browser.Whole (UrlParts.parse href).base →
    ∀ (signedXdr landed : Text) (submit : Text → Reply Text),
      ReturnsTo decoder callback signedXdr landed →
        handleMobileReturn browser decoder submit landed = outcome decoder submit href signedXdr

namespace Sample

/-- A decoder that knows no malformed bytes. -/
def decoder : Utf8Decoder where
  decode bytes := ((Tools.readToString ⟨bytes.toArray⟩).getD [])
  decode_encode text := by
    have hbytes : (⟨(text.flatMap String.utf8EncodeChar).toArray⟩ : ByteArray) =
        Tools.toUtf8 text := by
      rw [Tools.toUtf8, String.toUTF8_eq_toByteArray, String.toByteArray_ofList, List.utf8Encode]
      exact ByteArray.ext (by simp)
    rw [hbytes, Tools.readToString_toUtf8, Option.getD_some]

/-- A browser at a page of `http://localhost`. -/
def browser : Browser where
  origin _ := "http://localhost".toList
  pathname base := base.drop 16

def site : Site := ⟨"http://localhost:4000".toList, "localhost".toList⟩

def server (_ : Text) : Reply Text := .received "AAAA+w==".toList

def href : Text := "http://localhost/wallet?ref=home".toList

def account : Text := "GAMX62ZD4FWIKMWGVPEDR6WNL2TYTPQMO2ZJEAZUAON7VCZ5G2GWDF7W".toList

def link : Text := ("web+stellar:tx?xdr=AAAA%2Bw%3D%3D&callback=url%3Ahttp%3A%2F%2Flocalhost%2F" ++
  "wallet%3Fref%3Dhome%26orbitchain_xdr%3D1").toList

theorem start_eq : startMobileConnect browser decoder site server href account = .ok link := by
  decide +kernel

end Sample

/-- Where the page sends the browser to a wallet with a deep link, the wallet reads in it what it
has to sign and where to return. A page whose origin and path are its whole base submits what it is
returned with and goes back to its own URL, provided that this has no fragment; with one, the page
does not notice the return. -/
theorem mobile_handshake {browser : Browser} {decoder : Utf8Decoder} {site : Site}
    {server : Text → Reply Text} {href account link : Text}
    (h : startMobileConnect browser decoder site server href account = .ok link) :
    ∃ transaction callback,
      Handshake browser decoder site server href account link transaction callback := by
  simp only [startMobileConnect, bind_eq_ok_iff, pure_eq_ok_iff] at h
  obtain ⟨-, -, transaction, hfetched, rfl⟩ := h
  refine ⟨transaction, callbackUrl browser decoder href, ?_, readDeepLink_sep7TxUri _ _, ?_, ?_⟩
  · unfold fetchChallenge at hfetched
    split at hfetched
    · cases hfetched
    · cases hfetched
    · rename_i hreply
      rw [hreply, Except.ok.inj hfetched]
  · rw [callbackUrl, stripReturnParam, List.append_assoc, List.append_assoc]
    exact List.prefix_append ..
  · intro hwhole signedXdr landed submit hreturn
    rw [← UrlParts.href_parse href] at hreturn
    rw [handleMobileReturn_of_return hreturn hwhole submit, UrlParts.href_parse]

/-- The page of the sample restores its URL, and its origin and path are the whole base. -/
theorem mobile_handshake_page : Sample.browser.Whole (UrlParts.parse Sample.href).base ∧
    ∃ transaction callback, Handshake Sample.browser Sample.decoder Sample.site
      Sample.server Sample.href Sample.account Sample.link transaction callback :=
  ⟨by unfold Browser.Whole; decide, mobile_handshake Sample.start_eq⟩

end Mobile

end OrbitChain.WalletConnect
