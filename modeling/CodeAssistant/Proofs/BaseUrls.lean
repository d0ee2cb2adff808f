/-
# Normal base URLs

A base URL is trimmed, and then the slashes at its end are dropped.  Dropping slashes can bare a
blank that stood in front of them, or leave nothing at all, and neither is looked at again: so what
comes out is normal only if the text in front of the slashes was (`IsSettled`).

Nothing but the normal form counts for an endpoint (`endpointUrl_congr`), so a normal form that is
its own may stand in for the base URL.

Main statement: `baseUrl_can_be_fed_back`.
-/
import CodeAssistant.Backend.Client
import Mathlib.Data.List.TakeWhile

namespace CodeAssistant

open Text

/-! ## 1. Slashes at the end -/

namespace ClientConfig

section Slashes

variable {cs : List Char}

theorem getLast?_dropSlashes (cs : List Char) : ∀ c ∈ (dropSlashes cs).getLast?, c ≠ '/' := by
  intro c hc
  rw [dropSlashes, List.getLast?_reverse] at hc
  simpa using head?_dropWhile_not (· = '/') cs.reverse c hc

/-- What is dropped are slashes. -/
theorem dropSlashes_append (cs : List Char) :
    ∃ k, cs = dropSlashes cs ++ List.replicate k '/' := by
  refine ⟨(cs.reverse.takeWhile (· = '/')).length, ?_⟩
  have hslashes : cs.reverse.takeWhile (· = '/') =
      List.replicate (cs.reverse.takeWhile (· = '/')).length '/' := by
    rw [List.eq_replicate_iff]
    exact ⟨rfl, fun c hc => by simpa using List.mem_takeWhile_imp hc⟩
  rw [← List.reverse_replicate, ← hslashes, dropSlashes, ← List.reverse_append,
    List.takeWhile_append_dropWhile, List.reverse_reverse]

theorem dropSlashes_eq_self (h : ∀ c ∈ cs.getLast?, c ≠ '/') : dropSlashes cs = cs := by
  rw [dropSlashes, dropWhile_eq_self_of_head?, List.reverse_reverse]
  intro c hc
  rw [List.head?_reverse] at hc
  simpa using h c hc

@[simp] theorem dropSlashes_append_slash (cs : List Char) :
    dropSlashes (cs ++ ['/']) = dropSlashes cs := by
  simp [dropSlashes]

theorem head?_dropSlashes (cs : List Char) :
    ∀ c ∈ (dropSlashes cs).head?, c ∈ cs.head? := by
  obtain ⟨k, hk⟩ := dropSlashes_append cs
  intro c hc
  rw [hk, List.head?_append, Option.mem_def.mp hc]
  rfl

end Slashes

/-! ## 2. The normal form -/

/-- The text of a base URL as it is used. -/
def baseText (base : String) : List Char := (normalizeBaseUrl base).toList

/-- The base URL is blank, or what stands in front of the slashes at its end is something and does
not end in a blank. -/
def IsSettled (base : String) : Prop :=
  isBlank base = true ∨
    ∃ c ∈ (dropSlashes (trimList base.toList)).getLast?, isBlankChar c = false

instance (base : String) : Decidable (IsSettled base) :=
  decidable_of_iff (isBlank base = true ∨
    (dropSlashes (trimList base.toList)).getLast?.any (!isBlankChar ·)) <| by
    simp [IsSettled, Option.any_eq_true]

/-- A text that normalising leaves alone. -/
def IsNormalBase (cs : List Char) : Prop :=
  cs ≠ [] ∧ IsTrimmed cs ∧ ∀ c ∈ cs.getLast?, c ≠ '/'

theorem isNormalBase_default : IsNormalBase defaultBaseUrl.toList := by
  refine ⟨by decide, by decide, ?_⟩
  intro c hc
  cases hc
  decide

theorem baseText_of_blank {base : String} (h : isBlank base = true) :
    baseText base = defaultBaseUrl.toList := by
  rw [baseText, normalizeBaseUrl, if_pos h]

theorem baseText_of_not_blank {base : String} (h : isBlank base = false) :
    baseText base = dropSlashes (trimList base.toList) := by
  rw [baseText, normalizeBaseUrl, if_neg (by simp [h]), String.toList_ofList]

theorem getLast?_baseText (base : String) : ∀ c ∈ (baseText base).getLast?, c ≠ '/' := by
  cases h : isBlank base with
  | true => rw [baseText_of_blank h]; exact isNormalBase_default.2.2
  | false => rw [baseText_of_not_blank h]; exact getLast?_dropSlashes _

theorem head?_baseText (base : String) :
    ∀ c ∈ (baseText base).head?, isBlankChar c = false := by
  cases h : isBlank base with
  | true => rw [baseText_of_blank h]; exact isNormalBase_default.2.1.1
  | false =>
    rw [baseText_of_not_blank h]
    exact fun c hc => (isTrimmed_trimList _).1 c (head?_dropSlashes _ c hc)

/-- A base URL is settled if its normal form is something and has no blank at its end. -/
theorem isSettled_iff (base : String) :
    IsSettled base ↔
      baseText base ≠ [] ∧ ∀ c ∈ (baseText base).getLast?, isBlankChar c = false := by
  cases h : isBlank base with
  | true =>
    rw [baseText_of_blank h]
    exact iff_of_true (Or.inl h) ⟨isNormalBase_default.1, isNormalBase_default.2.1.2⟩
  | false =>
    rw [baseText_of_not_blank h, IsSettled, h]
    cases hlast : (dropSlashes (trimList base.toList)).getLast? with
    | none => simp [List.getLast?_eq_none_iff.mp hlast]
    | some c =>
      have hne : dropSlashes (trimList base.toList) ≠ [] := by
        intro hnil
        simp [hnil] at hlast
      simp [hne]

theorem isNormalBase_iff (base : String) : IsNormalBase (baseText base) ↔ IsSettled base := by
  rw [isSettled_iff]
  constructor
  · rintro ⟨hne, htrimmed, -⟩
    exact ⟨hne, htrimmed.2⟩
  · rintro ⟨hne, hlast⟩
    exact ⟨hne, ⟨head?_baseText base, hlast⟩, getLast?_baseText base⟩

/-- A text that is not blank is its own normal form just if it has no blank at its ends and no
slash behind. -/
theorem baseText_eq_self_iff (base : String) :
    baseText base = base.toList ↔ IsNormalBase base.toList := by
  constructor
  · intro h
    cases hblank : isBlank base with
    | true =>
      rw [baseText_of_blank hblank] at h
      exact h ▸ isNormalBase_default
    | false =>
      rw [baseText_of_not_blank hblank] at h
      -- Neither trimming nor dropping slashes takes anything away.
      obtain ⟨k, hk⟩ := dropSlashes_append (trimList base.toList)
      have hle : (trimList base.toList).length ≤ base.toList.length := by
        simp only [trimList, trimEndList, trimStartList, List.length_reverse]
        have hstart := (List.dropWhile_suffix isBlankChar (l := base.toList)).length_le
        have hend := (List.dropWhile_suffix isBlankChar
          (l := (base.toList.dropWhile isBlankChar).reverse)).length_le
        rw [List.length_reverse] at hend
        exact Nat.le_trans hend hstart
      have hlength := congrArg List.length hk
      rw [h, List.length_append, List.length_replicate] at hlength
      obtain rfl : k = 0 := by omega
      have htrim : trimList base.toList = base.toList := by
        rw [hk, h, List.replicate_zero, List.append_nil]
      refine ⟨?_, htrim ▸ isTrimmed_trimList _, h ▸ getLast?_dropSlashes _⟩
      intro hnil
      simp [isBlank, hnil] at hblank
  · rintro ⟨hne, htrimmed, hlast⟩
    have hblank : isBlank base = false := by
      obtain ⟨c, rest, hcs⟩ := List.exists_cons_of_ne_nil hne
      rw [isBlank, List.all_eq_false]
      exact ⟨c, by simp [hcs], by simp [htrimmed.1 c (by simp [hcs])]⟩
    rw [baseText_of_not_blank hblank, htrimmed.trimList_eq, dropSlashes_eq_self hlast]

theorem normalizeBaseUrl_eq_self_iff (base : String) :
    normalizeBaseUrl (normalizeBaseUrl base) = normalizeBaseUrl base ↔ IsSettled base := by
  rw [← isNormalBase_iff, baseText, ← baseText_eq_self_iff, baseText, String.toList_inj]

/-! ## 3. Base URLs with the same normal form -/

theorem endpointUrl_congr {base base' : String}
    (h : normalizeBaseUrl base = normalizeBaseUrl base') (path : String) :
    endpointUrl base path = endpointUrl base' path := by
  rw [endpointUrl, endpointUrl, endpointText, endpointText, h]

end ClientConfig

namespace Client

open ClientConfig

section Congruence

variable {c c' : Client}
  (hbase : normalizeBaseUrl c.config.baseUrl = normalizeBaseUrl c'.config.baseUrl)
  (hheaders : c.headers = c'.headers) (op : Operation)

include hbase hheaders

theorem draft_congr : c.draft op = c'.draft op := by
  have hurl := endpointUrl_congr hbase op.path
  rw [draft, draft, hurl, hheaders]

/-- Requests look at a base URL for its normal form only. -/
theorem request_congr (asked : op.Request) : c.request op asked = c'.request op asked := by
  rw [request, request, draft_congr hbase hheaders]

end Congruence

theorem ofConfig_eq_ok_iff {config : ClientConfig} {c : Client} :
    ofConfig config = .ok c ↔
      (∃ url, endpointUrl config.baseUrl Operation.health.path = .ok url) ∧
        ∃ headers, config.buildHeaders = .ok headers ∧ c = ⟨config, headers⟩ := by
  rw [ofConfig]
  cases endpointUrl config.baseUrl Operation.health.path with
  | error e => simp
  | ok url =>
    cases config.buildHeaders with
    | error e => simp
    | ok headers => simp [eq_comm]

end Client

namespace ClientConfig

/-- **A base URL can be fed back.**  The normal form of a base URL never ends in a slash and never
starts with a blank.  It is something, and has no blank at its end, just if the base URL is settled,
and just then it is its own normal form.  In that case endpoints are the same for both, and a client
whose base URL is configured again sends the same requests. -/
theorem baseUrl_can_be_fed_back (base : String) :
    (∀ c ∈ (normalizeBaseUrl base).toList.getLast?, c ≠ '/') ∧
    (∀ c ∈ (normalizeBaseUrl base).toList.head?, isBlankChar c = false) ∧
    (IsSettled base ↔ normalizeBaseUrl base ≠ "" ∧
      ∀ c ∈ (normalizeBaseUrl base).toList.getLast?, isBlankChar c = false) ∧
    (IsSettled base ↔ normalizeBaseUrl (normalizeBaseUrl base) = normalizeBaseUrl base) ∧
    (IsSettled base →
      (∀ path, endpointUrl (normalizeBaseUrl base) path = endpointUrl base path) ∧
      ∀ config c, config.baseUrl = base → Client.ofConfig config = .ok c →
        ∃ c', Client.ofConfig { config with baseUrl := c.baseUrl } = .ok c' ∧
          c'.baseUrl = c.baseUrl ∧
          ∀ op asked, c'.request op asked = c.request op asked) := by
  have hempty : baseText base ≠ [] ↔ normalizeBaseUrl base ≠ "" := by
    rw [baseText, Ne, String.toList_eq_nil_iff]
  refine ⟨getLast?_baseText base, head?_baseText base, ?_, (normalizeBaseUrl_eq_self_iff base).symm,
    fun hsettled => ?_⟩
  · rw [isSettled_iff, hempty, baseText]
  · have hself := (normalizeBaseUrl_eq_self_iff base).mpr hsettled
    refine ⟨endpointUrl_congr hself, ?_⟩
    rintro config c rfl hc
    obtain ⟨⟨url, hurl⟩, headers, hheaders, rfl⟩ := Client.ofConfig_eq_ok_iff.mp hc
    refine ⟨⟨{ config with baseUrl := normalizeBaseUrl config.baseUrl }, headers⟩, ?_, hself,
      Client.request_congr hself rfl⟩
    exact Client.ofConfig_eq_ok_iff.mpr
      ⟨⟨url, (endpointUrl_congr hself _).trans hurl⟩, headers, hheaders, rfl⟩

/-- A base URL with a path, and blanks and slashes around it. -/
theorem baseUrl_can_be_fed_back_prefixed :
    let base := " https://[::1]/api// "
    let config : ClientConfig := { baseUrl := base }
    ∃ c, IsSettled base ∧ Client.ofConfig config = .ok c ∧ c.baseUrl = "https://[::1]/api" ∧
      ∃ c', Client.ofConfig { config with baseUrl := "https://[::1]/api" } = .ok c' ∧
        ∀ op asked, c'.request op asked = c.request op asked := by
  intro base config
  have hsettled : IsSettled base := by decide +kernel
  have hbase : normalizeBaseUrl base = "https://[::1]/api" := by decide +kernel
  have hc : Client.ofConfig config =
      .ok ⟨config, [("accept", "application/json"), ("user-agent", "vibe-assistant/0.1.0")]⟩ :=
    Client.ofConfig_eq_ok_iff.mpr
      ⟨⟨{
          scheme := "https", host := some (.ipv6 [0, 0, 0, 0, 0, 0, 0, 1])
          path := .segments ["api", "health"] },
        by decide +kernel⟩, _, by decide +kernel, rfl⟩
  obtain ⟨-, -, -, -, hfed⟩ := baseUrl_can_be_fed_back base
  obtain ⟨c', hc', -, hrequests⟩ := (hfed hsettled).2 config _ rfl hc
  exact ⟨_, hsettled, hc, hbase, c', hbase ▸ hc', hrequests⟩

/-- Slashes alone leave nothing, and a blank in front of slashes stays: both are read otherwise when
they are normalised again. -/
theorem baseUrl_not_fed_back :
    (¬ IsSettled "/" ∧ normalizeBaseUrl "/" = "" ∧ normalizeBaseUrl "" = defaultBaseUrl) ∧
    ¬ IsSettled "http://[::1]/x /" ∧ normalizeBaseUrl "http://[::1]/x /" = "http://[::1]/x " ∧
      endpointUrl "http://[::1]/x /" "/ai/chat" = .ok {
        scheme := "http", host := some (.ipv6 [0, 0, 0, 0, 0, 0, 0, 1])
        path := .segments ["x%20", "ai", "chat"] } ∧
      endpointUrl "http://[::1]/x " "/ai/chat" = .ok {
        scheme := "http", host := some (.ipv6 [0, 0, 0, 0, 0, 0, 0, 1])
        path := .segments ["x", "ai", "chat"] } := by
  decide +kernel

end ClientConfig

end CodeAssistant
