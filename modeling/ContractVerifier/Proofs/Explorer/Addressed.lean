import ContractVerifier.Proofs.Explorer.Protocol
import ContractVerifier.Proofs.Url.Below

set_option autoImplicit false

/-! # Which contract a request is about

The two calls of the current interface put a contract's address into the address of a page, and what
stands there is read as a part of that. `calls_select_iff` says for which contract addresses the
request is about the contract: for those that are a segment of a path as they stand
(`Url.IsSegment`). `calls_select_others` shows what else can be asked for.
-/

namespace ContractVerifier

/-- A request without parameters is sent to its address. -/
theorem RequestDraft.url_of_no_params {d : RequestDraft} (h : d.params = none) :
    d.url = Url.sent d.address := by
  unfold RequestDraft.url Url.sent
  rw [h]
  cases Url.ofText d.address with
  | error e => rfl
  | ok u =>
      simp only [bind, Except.bind]
      split
      · rfl
      · cases u.rooted <;> rfl

theorem RequestDraft.url_of_request {d : RequestDraft} {userAgent : Text}
    {request : ExplorerRequest} (h : d.request userAgent = .ok request) :
    d.url = .ok request.url ∧ request.body = d.body := by
  unfold RequestDraft.request at h
  split at h
  · cases h
  · rename_i url hurl
    split at h
    · cases h
    · split at h
      · cases h
      · cases h
      · cases h
        exact ⟨hurl, rfl⟩

theorem withoutTrailingSlashes_isPrefix (t : Text) : withoutTrailingSlashes t <+: t := by
  have h := List.dropWhile_suffix (· = '/') (l := t.reverse)
  rw [← List.reverse_prefix] at h
  simpa [withoutTrailingSlashes] using h

theorem getLast?_withoutTrailingSlashes (t : Text) :
    (withoutTrailingSlashes t).getLast? ≠ some '/' := by
  intro h
  rw [withoutTrailingSlashes, List.getLast?_reverse] at h
  have := List.head?_dropWhile_not (fun c : Char => c = '/') t.reverse
  rw [h] at this
  simp at this

namespace Client

open Url

/-- The names of the page below which the contracts are. -/
def contractNames : List Text := ["api".toList, "v2".toList, "smart-contracts".toList]

/-- An address **selects** a contract's page below that of an explorer: it has no query, and in its
path one segment, which stands for the contract's address, takes the place between what always
stands there. -/
structure Selects (b : Url) (address page : Text) (u : Url) : Prop where
  query : u.query = none
  path : ∃ segment, segment ≠ [] ∧ '/' ∉ segment ∧ unescape segment = address ∧
    u.path = b.below ("/api/v2/smart-contracts/".toList ++ segment ++ page)

variable {c : Client} {explorer : Explorer} {d : RequestDraft} {b : Url} {address : Text}
  {names : List Text}

theorem contractPath_eq (segment : Text) (names : List Text) :
    "/api/v2/smart-contracts/".toList ++ segment ++ behindSlashes names =
      behindSlashes (contractNames ++ segment :: names) := by
  have h : behindSlashes contractNames ++ ['/'] = "/api/v2/smart-contracts/".toList := by decide
  rw [← h, behindSlashes_append]
  simp [behindSlashes]

theorem isFixed_contractNames : ∀ n ∈ contractNames, IsFixed n := by decide

/-- A call to a contract's page. -/
theorem send_selects_iff (hmarks : '?' ∉ c.settings.baseUrl ∧ '#' ∉ c.settings.baseUrl)
    (hb : ofText c.baseUrl = .ok b) (hparams : d.params = none)
    (hnames : ∀ n ∈ names, IsFixed n ∧ escape keptInPath n = n)
    (haddress : d.address = c.contractUrl address ++ behindSlashes names)
    {request : ExplorerRequest} (hsent : (c.send explorer d).sent = some request) :
    (IsSegment address → Selects b address (behindSlashes names) request.url ∧
      request.url.fragment = none) ∧
    (b.isAbsolute = true → Selects b address (behindSlashes names) request.url →
      IsSegment address) := by
  have hend : c.baseUrl.getLast? ≠ some '/' := getLast?_withoutTrailingSlashes _
  have hmarks' : '?' ∉ c.baseUrl ∧ '#' ∉ c.baseUrl := by
    have hsubset := (withoutTrailingSlashes_isPrefix c.settings.baseUrl).subset
    exact ⟨fun h => hmarks.1 (hsubset h), fun h => hmarks.2 (hsubset h)⟩
  have hgoes : GoesOn (behindSlashes (contractNames ++ address :: names)) :=
    goesOn_behindSlashes (by decide) (by decide) _
  have hurl := (RequestDraft.url_of_request (request_of_send hsent)).1
  rw [RequestDraft.url_of_no_params hparams, haddress, contractUrl, List.append_assoc,
    List.append_assoc, ← List.append_assoc "/api/v2/smart-contracts/".toList,
    contractPath_eq] at hurl
  constructor
  · intro hsegment
    have hfixed : ∀ n ∈ contractNames ++ address :: names, IsFixed n := by
      intro n hn
      rcases List.mem_append.mp hn with hn | hn
      · exact isFixed_contractNames n hn
      · rcases List.mem_cons.mp hn with rfl | hn
        · exact hsegment.toIsFixed
        · exact (hnames n hn).1
    obtain ⟨hquery, hfragment, hpath⟩ := sent_of_segments hend hmarks' hb hgoes hfixed hurl
    refine ⟨⟨hquery, escape keptInPath address, escape_ne_nil hsegment.nonempty,
      slash_not_mem_escape hsegment.slash, ?_, ?_⟩, hfragment⟩
    · rw [unescape, bytes_escape keepsEscapes_path, ← unescape,
        unescape_of_not_hasEscape hsegment.unescaped]
    · have hmap : names.map (escape keptInPath) = names :=
        (List.map_congr_left fun n hn => (hnames n hn).2).trans (List.map_id names)
      have hmap' : contractNames.map (escape keptInPath) = contractNames := by decide
      rw [hpath, contractPath_eq, List.map_append, List.map_cons, hmap, hmap']
  · -- an address with a scheme and a host is sent as it is, so only following dots is to be undone
    intro habsolute hselects
    obtain ⟨segment, hne, hsingle, hstands, hpath⟩ := hselects.path
    obtain ⟨u, hu, hcases⟩ := sent_cases hurl
    have hsame := (ofText_append hgoes hend hmarks' hb hu).1
    obtain ⟨-, rfl⟩ : u.isAbsolute = true ∧ request.url = u :=
      hcases.resolve_right fun h => by simp [hsame, habsolute] at h
    rw [below, if_pos habsolute, contractPath_eq] at hpath
    exact isSegment_of_path hend hmarks' hb habsolute hgoes isFixed_contractNames
      (fun n hn => (hnames n hn).1) hu hselects.query hne hsingle hstands hpath

/-- **A request is about the contract whose address it is made with, if that is a segment.** Take a
client of an explorer whose address `b` has no marks. If a contract's address is a segment, then
what is sent to submit its source or to ask for it has no query and no fragment, and in its path one
segment stands for the address. If the explorer's address has a scheme and a host, this holds of no
other address. -/
theorem calls_select_iff (hmarks : '?' ∉ c.settings.baseUrl ∧ '#' ∉ c.settings.baseUrl)
    (hb : ofText c.baseUrl = .ok b) :
    let selectsOnly (address page : Text) (u : Url) : Prop :=
      (IsSegment address → Selects b address page u ∧ u.fragment = none) ∧
        (b.isAbsolute = true → Selects b address page u → IsSegment address)
    (∀ (r : VerificationRequest) request, (c.verifyFlattened explorer r).sent = some request →
      selectsOnly r.address "/verification/via/flattened-code".toList request.url) ∧
    ∀ address request, (c.getContract explorer address).sent = some request →
      selectsOnly address [] request.url := by
  intro selectsOnly
  constructor
  · intro r request hsent
    let names := ["verification".toList, "via".toList, "flattened-code".toList]
    have hnames : ∀ n ∈ names, IsFixed n ∧ escape keptInPath n = n := by decide
    have hpage : behindSlashes names = "/verification/via/flattened-code".toList := by decide
    rw [← hpage]
    refine send_selects_iff hmarks hb rfl hnames ?_ hsent
    rw [hpage]
  · intro address request hsent
    have hnames : ∀ n ∈ ([] : List Text), IsFixed n ∧ escape keptInPath n = n :=
      fun n hn => absurd hn List.not_mem_nil
    exact send_selects_iff hmarks hb rfl hnames (List.append_nil _).symm hsent

/-- An explorer that does not answer. -/
def silent : Explorer := fun _ => .silence

/-- A contract's source is submitted to the contract's page. -/
theorem small_is_selected : ∃ b request, ofText nearby.baseUrl = .ok b ∧
    (nearby.verifyFlattened silent small).sent = some request ∧
    Selects b small.address "/verification/via/flattened-code".toList request.url ∧
    request.url.fragment = none := by
  have hb : ofText nearby.baseUrl = .ok ⟨"http".toList, [], ['e'], none, [], none, none⟩ := by
    decide +kernel
  have hsegment : IsSegment small.address :=
    ⟨by decide, by decide, not_hasEscape_of_not_mem (by decide)⟩
  have hsent : (nearby.verifyFlattened silent small).sent.isSome := by decide +kernel
  obtain ⟨request, hrequest⟩ := Option.isSome_iff_exists.mp hsent
  have hselects := ((calls_select_iff (by decide) hb).1 small request hrequest).1 hsegment
  exact ⟨_, request, hb, hrequest, hselects⟩

/-- With a question mark in a contract's address, its source is submitted to another page, and the
rest is sent as a query; two points ask for what is above the contracts; and an address with an
escape asks for the contract of another address. -/
theorem calls_select_others :
    (∃ request,
      (nearby.verifyFlattened silent { small with address := "0xabc?x".toList }).sent =
        some request ∧
      request.url.path = "/api/v2/smart-contracts/0xabc".toList ∧
      request.url.query = some "x/verification/via/flattened-code".toList) ∧
    (∃ request, (nearby.getContract silent "..".toList).sent = some request ∧
      request.url.path = "/api/v2".toList) ∧
    ∃ request, (nearby.getContract silent "a%41".toList).sent = some request ∧
      request.url.path = "/api/v2/smart-contracts/a%41".toList ∧
      unescape "a%41".toList = "aA".toList := by
  have hmark : (nearby.verifyFlattened silent { small with address := "0xabc?x".toList }).sent.map
      (fun request => (request.url.path, request.url.query)) =
      some ("/api/v2/smart-contracts/0xabc".toList,
        some "x/verification/via/flattened-code".toList) := by decide +kernel
  have hdots : (nearby.getContract silent "..".toList).sent.map (fun request => request.url.path) =
      some "/api/v2".toList := by decide +kernel
  have hescape : (nearby.getContract silent "a%41".toList).sent.map
      (fun request => request.url.path) = some "/api/v2/smart-contracts/a%41".toList := by
    decide +kernel
  obtain ⟨submitted, hsubmitted, hsubmittedUrl⟩ := Option.map_eq_some_iff.mp hmark
  obtain ⟨above, habove, habovePath⟩ := Option.map_eq_some_iff.mp hdots
  obtain ⟨other, hother, hotherPath⟩ := Option.map_eq_some_iff.mp hescape
  injection hsubmittedUrl with hpath hquery
  refine ⟨⟨submitted, hsubmitted, hpath, hquery⟩, ⟨above, habove, habovePath⟩, other, hother,
    hotherPath, ?_⟩
  cbv

end Client

end ContractVerifier
