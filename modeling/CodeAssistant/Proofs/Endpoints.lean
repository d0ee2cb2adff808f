/-
# Endpoints of a base URL

The URL of an endpoint is read from one text: the base URL, a slash and the words of the endpoint.
Whether that text is a URL does not hang on the words, for they go to the path or the query, or the
first of them is a host, and every one is fit for that.  So the endpoint that is tried when a client
is made speaks for all of them (`ofConfig_settles_baseUrl`).

Where the URL points does hang on the base URL.  It is where the base URL points on its own just if
the words go to the path, behind a single slash (`IsPlainBase`, `requests_go_to_base`).  Behind a
question mark or a number sign the words are no part of the path; where an authority could start the
first word is the host; and behind a backslash, or dots that leave an empty segment, there are two
slashes.
-/
import CodeAssistant.Proofs.Names
import CodeAssistant.Proofs.Openings

namespace CodeAssistant

open Text
open Url (IsWords Unmarked firstWord opensAt)

/-! ## 1. The words of an endpoint -/

namespace Operation

/-- The path of the operation's endpoint behind its slash. -/
def route (op : Operation) : List Char := op.path.toList.drop 1

/-- The first word of the path. -/
def firstName (op : Operation) : String := String.ofList (firstWord op.route)

theorem toList_path (op : Operation) : op.path.toList = '/' :: op.route := by
  cases op <;> decide

theorem isWords_route (op : Operation) : IsWords op.route := by
  cases op <;> decide

theorem exists_route (op : Operation) : ∃ c rest, op.route = c :: rest ∧ c ≠ '/' := by
  cases op <;> exact ⟨_, _, rfl, by decide⟩

theorem head?_route (op : Operation) : ∀ c ∈ op.route.head?, c ≠ '/' := by
  obtain ⟨c, rest, hroute, hc⟩ := op.exists_route
  rw [hroute]
  rintro d ⟨⟩
  exact hc

theorem hostOf_route (op : Operation) (kind : Url.Kind) :
    Url.hostOf kind (firstWord op.route) = .ok (.name op.firstName) := by
  have hne : firstWord op.route ≠ [] := by cases op <;> decide
  have hdomain : Url.Host.ofDomain (firstWord op.route) = .ok (.name op.firstName) :=
    Url.Host.ofDomain_of_word op.isWords_route.isWord_firstWord hne (by cases op <;> decide)
  cases kind with
  | web => simp [Url.hostOf, hne, hdomain]
  | file => simp [Url.hostOf, hne, hdomain]
  | other => cases op <;> decide

theorem firstName_ne_localhost (op : Operation) : op.firstName ≠ "localhost" := by
  cases op <;> decide

end Operation

namespace ClientConfig

theorem endpointText_eq (base : String) (op : Operation) :
    endpointText base op.path = String.ofList (baseText base ++ '/' :: op.route) := by
  have hdrop : ('/' :: op.route).dropWhile (· = '/') = op.route := by
    rw [List.dropWhile_cons_of_pos (by simp)]
    exact dropWhile_eq_self_of_head? fun c hc => by simpa using op.head?_route c hc
  rw [endpointText, op.toList_path, hdrop, ← String.toList_inj]
  simp [baseText]

theorem endpointUrl_eq_ok_iff {base : String} {op : Operation} {url : Url} :
    endpointUrl base op.path = .ok url ↔
      Url.parse (String.ofList (baseText base ++ '/' :: op.route)) = .ok url := by
  rw [endpointUrl, endpointText_eq]
  cases Url.parse (String.ofList (baseText base ++ '/' :: op.route)) <;> simp

/-- The words go to the end of the path, unless the first of them is a host. -/
theorem suffix_of_closed {cs : List Char} (hcs : Unmarked cs) (hopens : opensAt cs = false)
    {op : Operation} {url : Url} (hurl : Url.parse (String.ofList (cs ++ '/' :: op.route)) = .ok url) :
    op.path.toList <:+ url.path.write.toList := by
  obtain ⟨hunder, hdirectory⟩ := Url.parse_under hcs hopens op.isWords_route op.head?_route
  rw [hurl] at hunder
  cases hdir : Url.parse (String.ofList (cs ++ ['/'])) with
  | error fault =>
    rw [hdir] at hunder
    cases hunder
  | ok dir =>
    rw [hdir] at hunder
    cases hunder
    obtain ⟨front, -, hwords⟩ := (hdirectory dir hdir).path
    exact ⟨front, by rw [Url.under, hwords, op.toList_path]⟩

/-! ## 2. One endpoint speaks for all -/

theorem exists_map_eq_ok {α β : Type} {f : α → β} {x : Except Url.Fault α} :
    (∃ b, x.map f = .ok b) ↔ ∃ a, x = .ok a := by
  cases x with
  | error fault => simp [Except.map]
  | ok a => simp [Except.map]

/-- If there is a URL for one endpoint there is one for every other. -/
theorem exists_endpointUrl {base : String} {op : Operation}
    (h : ∃ url, endpointUrl base op.path = .ok url) (op' : Operation) :
    ∃ url, endpointUrl base op'.path = .ok url := by
  simp only [endpointUrl_eq_ok_iff] at h ⊢
  by_cases hmarked : Unmarked (baseText base)
  · by_cases hopens : opensAt (baseText base) = true
    · -- The first word is a host.
      obtain ⟨url, hurl, -⟩ := Url.parse_opened op'.isWords_route hopens op'.head?_route
        op'.hostOf_route op'.firstName_ne_localhost
      exact ⟨url, hurl⟩
    · -- The words are added to the path of one and the same directory.
      have hunder (op : Operation) := (Url.parse_under hmarked (by simpa using hopens)
        op.isWords_route op.head?_route).1
      rw [hunder op, exists_map_eq_ok] at h
      rw [hunder op', exists_map_eq_ok]
      exact h
  · -- The words are in the query or in the fragment.
    obtain ⟨front, mark, rest, hbase, hfront, hmark⟩ := Url.exists_mark hmarked
    rw [hbase, List.append_assoc, List.cons_append] at h ⊢
    rw [← exists_map_eq_ok (f := Url.bare)] at h ⊢
    rw [Url.parse_marked hfront hmark _ (rest ++ '/' :: op.route)]
    exact h

end ClientConfig

namespace Client

open ClientConfig

theorem draft_eq_ok {c : Client} {op : Operation} {url : Url}
    (h : endpointUrl c.config.baseUrl op.path = .ok url) :
    c.draft op = .ok (Http.Request.draft op.method url c.headers) := by
  rw [draft, h]

/-- **A bad base URL fails when the client is made, and never later.**  There is a URL for one
endpoint of a base URL just if there is one for every other.  So a client that is made makes the
request of every operation, and where there is a URL for any operation the base URL is no reason for
making none: what is left to go wrong are the headers. -/
theorem ofConfig_settles_baseUrl :
    (∀ base op op', (∃ url, endpointUrl base (Operation.path op) = .ok url) ↔
      ∃ url, endpointUrl base (Operation.path op') = .ok url) ∧
    (∀ config c, ofConfig config = .ok c → ∀ op, ∃ r, c.draft op = .ok r) ∧
    (∀ config op url, endpointUrl config.baseUrl (Operation.path op) = .ok url →
      ofConfig config = config.buildHeaders.map (Client.mk config)) := by
  refine ⟨fun base op op' => ⟨fun h => exists_endpointUrl h op', fun h => exists_endpointUrl h op⟩,
    ?_, ?_⟩
  · intro config c hc op
    obtain ⟨hhealth, headers, -, rfl⟩ := ofConfig_eq_ok_iff.mp hc
    obtain ⟨url, hurl⟩ := exists_endpointUrl hhealth op
    exact ⟨_, draft_eq_ok hurl⟩
  · intro config op url hurl
    obtain ⟨health, hhealth⟩ := exists_endpointUrl ⟨url, hurl⟩ .health
    rw [ofConfig, hhealth]
    cases config.buildHeaders <;> rfl

/-- A base URL with a query, where the words of an endpoint are a part of that. -/
theorem ofConfig_settles_baseUrl_query :
    let config : ClientConfig := { baseUrl := "http://me@[::1]/v1?key=x" }
    ∃ c, ofConfig config = .ok c ∧ c.config = config ∧ (∀ op, ∃ r, c.draft op = .ok r) ∧
      ∀ op, ∃ url, endpointUrl config.baseUrl (Operation.path op) = .ok url := by
  intro config
  have hplan : endpointUrl config.baseUrl (Operation.path .plan) = .ok {
      scheme := "http", username := "me", host := some (.ipv6 [0, 0, 0, 0, 0, 0, 0, 1])
      path := .segments ["v1"], query := some "key=x/ai/plan" } := by decide +kernel
  have hheaders : config.buildHeaders =
      .ok [("accept", "application/json"), ("user-agent", "vibe-assistant/0.1.0")] := by
    decide +kernel
  obtain ⟨hall, hdrafts, hsettled⟩ := ofConfig_settles_baseUrl
  have hc := hsettled config .plan _ hplan
  rw [hheaders] at hc
  exact ⟨_, hc, rfl, hdrafts config _ hc, fun op => (hall _ .plan op).mp ⟨_, hplan⟩⟩

end Client

/-! ## 3. Where a base URL points -/

/-- The URL goes where another one points: its scheme, host and port are the same, and its path is
that of the other, without slashes at the end, with a further path behind it. -/
structure Url.PointsInto (own : Url) (path : String) (u : Url) : Prop where
  scheme : u.scheme = own.scheme
  server : u.server? = own.server?
  port : u.port = own.port
  path : u.path.write.toList = ClientConfig.dropSlashes own.path.write.toList ++ path.toList

theorem Url.pointsInto_withoutCredentials (own : Url) (path : String) (u : Url) :
    own.PointsInto path u.withoutCredentials ↔ own.PointsInto path u :=
  ⟨fun h => ⟨h.scheme, h.server, h.port, h.path⟩, fun h => ⟨h.scheme, h.server, h.port, h.path⟩⟩

namespace Http.Request

variable (method : Method) (url : Url) (headers : Headers)

/-- No more than credentials leaves the URL of a request. -/
theorem draft_url : (draft method url headers).url.withoutCredentials = url.withoutCredentials := by
  rw [draft]
  cases credentials? url <;> rfl

theorem draft_keeps {α : Sort*} (f : Url → α) (hf : ∀ u, f u.withoutCredentials = f u) :
    f (draft method url headers).url = f url := by
  rw [← hf, draft_url, hf]

theorem pointsInto_draft (own : Url) (path : String) :
    own.PointsInto path (draft method url headers).url ↔ own.PointsInto path url := by
  rw [← Url.pointsInto_withoutCredentials, draft_url, Url.pointsInto_withoutCredentials]

end Http.Request

namespace ClientConfig

/-- The base URL as it is given, without blanks around it; the default in the place of a blank
one. -/
def givenBaseUrl (base : String) : String :=
  if isBlank base then defaultBaseUrl else trim base

/-- A base URL behind which words go to the path: it has neither query nor fragment, what it ends
with is not what an authority starts with, and a slash behind it is the only one there. -/
structure IsPlainBase (base : String) : Prop where
  unmarked : Unmarked (baseText base)
  closed : opensAt (baseText base) = false
  single : ∀ dir, Url.parse (String.ofList (baseText base ++ ['/'])) = .ok dir →
    ¬ ['/', '/'] <:+ dir.path.write.toList

/-- The slashes at the end of a base URL are all that normalising takes away. -/
theorem toList_givenBaseUrl (base : String) :
    ∃ k, (givenBaseUrl base).toList = baseText base ++ List.replicate k '/' := by
  rw [givenBaseUrl]
  split
  · rename_i h
    exact ⟨0, by rw [baseText_of_blank h]; simp⟩
  · rename_i h
    rw [baseText_of_not_blank (by simpa using h), trim, String.toList_ofList]
    exact dropSlashes_append _

theorem dropSlashes_eq_self_iff (cs : List Char) :
    dropSlashes cs = cs ↔ ¬ ['/', '/'] <:+ cs ++ ['/'] := by
  constructor
  · rintro h ⟨front, hfront⟩
    have hcs : cs = front ++ ['/'] := by
      rw [List.append_cons front '/' ['/']] at hfront
      exact (List.append_cancel_right hfront).symm
    have hlast := getLast?_dropSlashes cs '/'
    rw [h, hcs, List.getLast?_concat] at hlast
    exact hlast rfl rfl
  · intro h
    refine dropSlashes_eq_self ?_
    rintro c hc rfl
    obtain ⟨front, rfl⟩ := List.getLast?_eq_some_iff.mp hc
    exact h ⟨front, by simp⟩

section Pointing

variable {cs : List Char} {k : Nat} {op : Operation} {own url : Url}
  (hown : Url.parse (String.ofList (cs ++ List.replicate k '/')) = .ok own)
  (hurl : Url.parse (String.ofList (cs ++ '/' :: op.route)) = .ok url)

include hown hurl

/-- Behind a question mark or a number sign the words are no part of the path. -/
theorem not_pointsInto_of_marked (hcs : ¬ Unmarked cs) : ¬ own.PointsInto op.path url := by
  intro h
  obtain ⟨front, mark, rest, rfl, hfront, hmark⟩ := Url.exists_mark hcs
  rw [List.append_assoc, List.cons_append] at hown hurl
  have hbare := Url.parse_marked hfront hmark (rest ++ List.replicate k '/') (rest ++ '/' :: op.route)
  rw [hown, hurl] at hbare
  have hsame : own.bare = url.bare := Except.ok.inj hbare
  have hpath : own.bare.path = url.bare.path := by rw [hsame]
  change own.path = url.path at hpath
  -- The path has nothing but slashes behind it when they are dropped, and words are none.
  obtain ⟨j, hj⟩ := dropSlashes_append own.path.write.toList
  have hslashes : List.replicate j '/' = op.path.toList :=
    List.append_cancel_left (hj.symm.trans (hpath ▸ h.path))
  obtain ⟨c, words, hroute, hc⟩ := op.exists_route
  have hmem : c ∈ List.replicate j '/' := by
    rw [hslashes, op.toList_path, hroute]
    simp
  exact hc (List.eq_of_mem_replicate hmem)

/-- Where an authority could start the first word is the host. -/
theorem not_pointsInto_of_opens (hopens : opensAt cs = true)
    (hlast : ∀ c ∈ (cs ++ List.replicate k '/').getLast?, Url.isOuter c = false) :
    ¬ own.PointsInto op.path url := by
  intro h
  obtain ⟨url', hurl', hserver⟩ := Url.parse_opened op.isWords_route hopens op.head?_route
    op.hostOf_route op.firstName_ne_localhost
  cases hurl.symm.trans hurl'
  have hnone := Url.server?_parse_of_opens hopens k hlast hown
  cases hserver.symm.trans (h.server.trans hnone)

/-- Where the words go to the path, the URL points into the base just if there is no slash in front
of the one that they stand behind. -/
theorem pointsInto_iff (hcs : Unmarked cs) (hopens : opensAt cs = false)
    (hlast : ∀ c ∈ (cs ++ List.replicate k '/').getLast?, Url.isOuter c = false) {dir : Url}
    (hdir : Url.parse (String.ofList (cs ++ ['/'])) = .ok dir) :
    own.PointsInto op.path url ↔ ¬ ['/', '/'] <:+ dir.path.write.toList := by
  obtain ⟨hunder, hdirectory⟩ := Url.parse_under hcs hopens op.isWords_route op.head?_route
  rw [hurl, hdir] at hunder
  cases hunder
  obtain ⟨own', hown', hplace⟩ := Url.parse_slashes hcs hdir k hlast
  cases hown.symm.trans hown'
  obtain ⟨front, hfront, hwords⟩ := (hdirectory dir hdir).path
  have hsame : dropSlashes own.path.write.toList = dropSlashes front := by
    rw [hplace.path, hfront, dropSlashes_append_slash]
  rw [hfront, ← dropSlashes_eq_self_iff]
  constructor
  · intro h
    have hpath := h.path
    rw [op.toList_path, Url.under, hwords, hsame] at hpath
    exact (List.append_cancel_right hpath).symm
  · intro h
    refine ⟨hplace.scheme.symm, hplace.server.symm, hplace.port.symm, ?_⟩
    rw [op.toList_path, Url.under, hwords, hsame, h]

end Pointing

end ClientConfig

namespace Client

open ClientConfig

/-- **Requests go where the base URL points, just if it is plain.**  The client makes a request of
every operation.  Let the base URL not end in a control character, which would count in front of
words and does not at the end of a text.  Then the request goes to the scheme, the host and the port
that the base URL has on its own, and to the path of the endpoint behind that of the base URL, just
if the base URL is plain. -/
theorem requests_go_to_base {config : ClientConfig} {c : Client} (hc : ofConfig config = .ok c)
    (hlast : ∀ d ∈ (givenBaseUrl config.baseUrl).toList.getLast?, Url.isOuter d = false)
    (op : Operation) :
    ∃ r, c.draft op = .ok r ∧
      ((∃ own, Url.parse (givenBaseUrl config.baseUrl) = .ok own ∧ own.PointsInto op.path r.url) ↔
        IsPlainBase config.baseUrl) := by
  obtain ⟨hhealth, headers, -, rfl⟩ := ofConfig_eq_ok_iff.mp hc
  obtain ⟨url, hurl⟩ := exists_endpointUrl hhealth op
  refine ⟨_, draft_eq_ok hurl, ?_⟩
  simp only [Http.Request.pointsInto_draft]
  obtain ⟨k, hk⟩ := toList_givenBaseUrl config.baseUrl
  rw [hk] at hlast
  rw [← String.ofList_toList (s := givenBaseUrl config.baseUrl), hk]
  rw [endpointUrl_eq_ok_iff] at hurl
  constructor
  · rintro ⟨own, hown, hpoints⟩
    have hunmarked : Unmarked (baseText config.baseUrl) :=
      Classical.byContradiction fun h => not_pointsInto_of_marked hown hurl h hpoints
    have hcloses : opensAt (baseText config.baseUrl) = false :=
      Bool.eq_false_iff.mpr fun h => not_pointsInto_of_opens hown hurl h hlast hpoints
    exact ⟨hunmarked, hcloses, fun dir hdir =>
      (pointsInto_iff hown hurl hunmarked hcloses hlast hdir).mp hpoints⟩
  · rintro ⟨hunmarked, hcloses, hsingle⟩
    have hunder := (Url.parse_under hunmarked hcloses op.isWords_route op.head?_route).1
    obtain ⟨dir, hdir⟩ := exists_map_eq_ok.mp ⟨url, hunder.symm.trans hurl⟩
    obtain ⟨own, hown, -⟩ := Url.parse_slashes hunmarked hdir k hlast
    exact ⟨own, hown, (pointsInto_iff hown hurl hunmarked hcloses hlast hdir).mpr (hsingle dir hdir)⟩

/-- With no headers configured a client is made if the endpoint that is tried has a URL. -/
theorem exists_health {base : String} {url : Url}
    (h : endpointUrl base Operation.health.path = .ok url) :
    ∃ c, ofConfig { baseUrl := base } = .ok c ∧
      c.draft .health = .ok (Http.Request.draft .get url c.headers) := by
  have hvalue : headerValue "user-agent" defaultUserAgent = .ok defaultUserAgent := by decide
  have hheaders : ({ baseUrl := base } : ClientConfig).buildHeaders =
      .ok [("accept", "application/json"), ("user-agent", defaultUserAgent)] := by
    have hagent : ({ baseUrl := base } : ClientConfig).agent = defaultUserAgent := rfl
    rw [buildHeaders, hagent, hvalue]
    rfl
  exact ⟨_, ofConfig_eq_ok_iff.mpr ⟨⟨url, h⟩, _, hheaders, rfl⟩, draft_eq_ok h⟩

/-- A base URL with a port and a path, and slashes and blanks around it. -/
theorem requests_go_to_base_prefixed :
    let config : ClientConfig := { baseUrl := " https://[::1]:8443/api// " }
    ∃ c r own, ofConfig config = .ok c ∧ c.draft .chat = .ok r ∧
      Url.parse "https://[::1]:8443/api//" = .ok own ∧ own.PointsInto "/ai/chat" r.url := by
  intro config
  have hhealth : endpointUrl config.baseUrl Operation.health.path = .ok {
      scheme := "https", host := some (.ipv6 [0, 0, 0, 0, 0, 0, 0, 1]), port := some 8443
      path := .segments ["api", "health"] } := by decide +kernel
  obtain ⟨c, hc, -⟩ := exists_health hhealth
  have hgiven : givenBaseUrl config.baseUrl = "https://[::1]:8443/api//" := by decide +kernel
  have hdir : Url.parse (String.ofList (baseText config.baseUrl ++ ['/'])) = .ok {
      scheme := "https", host := some (.ipv6 [0, 0, 0, 0, 0, 0, 0, 1]), port := some 8443
      path := .segments ["api", ""] } := by decide +kernel
  have hplain : IsPlainBase config.baseUrl := by
    refine ⟨by decide +kernel, by decide +kernel, fun dir h => ?_⟩
    cases hdir.symm.trans h
    decide
  have hlast : "https://[::1]:8443/api//".toList.getLast? = some '/' := by decide
  obtain ⟨r, hr, hiff⟩ := requests_go_to_base hc
    (by rw [hgiven, hlast]; rintro d ⟨⟩; decide) .chat
  obtain ⟨own, hown, hpoints⟩ := hiff.mpr hplain
  exact ⟨c, r, own, hc, hr, hgiven ▸ hown, hpoints⟩

/-- Clients that are made and whose requests go elsewhere: into the query of the base URL, behind
two slashes, and to a host that the base URL, which is none, does not name. -/
theorem requests_not_to_base :
    (∃ c r own, ofConfig { baseUrl := "http://[::1]/v1?key=x" } = .ok c ∧ c.draft .health = .ok r ∧
      Url.parse "http://[::1]/v1?key=x" = .ok own ∧ r.url.path = own.path ∧
      ¬ own.PointsInto "/health" r.url) ∧
    (∃ c r own, ofConfig { baseUrl := "http://[::1]\\" } = .ok c ∧ c.draft .health = .ok r ∧
      Url.parse "http://[::1]\\" = .ok own ∧ r.url.path.write = "//health" ∧
      ¬ own.PointsInto "/health" r.url) ∧
    ∃ c r, ofConfig { baseUrl := "http://" } = .ok c ∧ c.draft .health = .ok r ∧
      Url.parse "http://" = .error .emptyHost ∧ r.url.server? = some (.name "health") := by
  refine ⟨?_, ?_, ?_⟩
  · have hhealth : endpointUrl "http://[::1]/v1?key=x" Operation.health.path = .ok {
        scheme := "http", host := some (.ipv6 [0, 0, 0, 0, 0, 0, 0, 1])
        path := .segments ["v1"], query := some "key=x/health" } := by decide +kernel
    have hown : Url.parse "http://[::1]/v1?key=x" = .ok {
        scheme := "http", host := some (.ipv6 [0, 0, 0, 0, 0, 0, 0, 1])
        path := .segments ["v1"], query := some "key=x" } := by decide +kernel
    obtain ⟨c, hc, hr⟩ := exists_health hhealth
    refine ⟨c, _, _, hc, hr, hown, Http.Request.draft_keeps .get _ _ (·.path) fun _ => rfl, fun h => ?_⟩
    rw [Http.Request.pointsInto_draft] at h
    exact absurd h.path (by decide)
  · have hhealth : endpointUrl "http://[::1]\\" Operation.health.path = .ok {
        scheme := "http", host := some (.ipv6 [0, 0, 0, 0, 0, 0, 0, 1])
        path := .segments ["", "health"] } := by decide +kernel
    have hown : Url.parse "http://[::1]\\" = .ok {
        scheme := "http", host := some (.ipv6 [0, 0, 0, 0, 0, 0, 0, 1])
        path := .segments [""] } := by decide +kernel
    obtain ⟨c, hc, hr⟩ := exists_health hhealth
    refine ⟨c, _, _, hc, hr, hown, ?_, fun h => ?_⟩
    · rw [Http.Request.draft_keeps .get _ _ (·.path.write) fun _ => rfl]
      decide
    · rw [Http.Request.pointsInto_draft] at h
      exact absurd h.path (by decide)
  · have hopens : opensAt (baseText "http://") = true := by decide +kernel
    obtain ⟨url, hurl, hserver⟩ := Url.parse_opened Operation.health.isWords_route hopens
      Operation.health.head?_route Operation.health.hostOf_route
      Operation.health.firstName_ne_localhost
    obtain ⟨c, hc, hr⟩ := exists_health (endpointUrl_eq_ok_iff.mpr hurl)
    have hkeeps := Http.Request.draft_keeps .get url c.headers (·.server?) fun _ => rfl
    exact ⟨c, _, hc, hr, by decide +kernel, hkeeps.trans hserver⟩

end Client

end CodeAssistant
