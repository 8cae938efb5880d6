import CEMonitor.CliUtils

/-!
# The URL of a CEMon

An endpoint is a scheme, a host and a port. A user may write it as a full URL, as `host:port`,
or as the host alone; `checkCEMonURL` accepts these three ways and no other text, and answers
with the URL of the endpoint. So its answer tells endpoints apart, and it accepts its own
answers.
-/

namespace CEMonitor

open Infra CliUtils

/-! ## Endpoints -/

/-- `http` or `https`. -/
inductive Scheme where
  | http
  | https
  deriving DecidableEq, Repr

def Scheme.text : Scheme → String
  | .http => "http"
  | .https => "https"

/-- A non-empty text without slash and colon. -/
def IsHost (h : String) : Prop := h.toList ≠ [] ∧ ∀ c ∈ h.toList, c ≠ '/' ∧ c ≠ ':'

/-- A non-empty text of decimal digits. -/
def IsPort (d : String) : Prop := d.toList ≠ [] ∧ ∀ c ∈ d.toList, c.isDigit = true

instance (h : String) : Decidable (IsHost h) :=
  @instDecidableAnd _ _ _ (List.decidableBAll (fun c => c ≠ '/' ∧ c ≠ ':') h.toList)

instance (d : String) : Decidable (IsPort d) :=
  @instDecidableAnd _ _ _ (List.decidableBAll (fun c => c.isDigit = true) d.toList)

/-- Where a CEMon is reached. -/
structure Endpoint where
  scheme : Scheme
  host : String
  port : String
  isHost : IsHost host
  isPort : IsPort port

namespace Endpoint

theorem eq_of_fields {e f : Endpoint} (hs : e.scheme = f.scheme) (hh : e.host = f.host)
    (hp : e.port = f.port) : e = f := by
  cases e
  cases f
  cases hs
  cases hh
  cases hp
  rfl

/-- The full URL. -/
def url (e : Endpoint) : String :=
  e.scheme.text ++ "://" ++ e.host ++ ":" ++ e.port ++ "/ce-monitor/services/CEMonitor"

theorem toList_url (e : Endpoint) : e.url.toList =
    e.scheme.text.toList ++ ':' :: ('/' :: '/' :: (e.host.toList ++ ':' :: (e.port.toList ++
      "/ce-monitor/services/CEMonitor".toList))) := by
  simp only [url, String.toList_append, List.append_assoc]
  rfl

end Endpoint

/-- The three ways to write an endpoint; a missing scheme is `https`, a missing port 8443. -/
inductive Denotes : String → Endpoint → Prop where
  | url (e : Endpoint) : Denotes e.url e
  | hostPort (e : Endpoint) (hs : e.scheme = .https) : Denotes (e.host ++ ":" ++ e.port) e
  | host (e : Endpoint) (hs : e.scheme = .https) (hp : e.port = "8443") : Denotes e.host e

/-! ## A text denotes one endpoint -/

theorem colon_not_mem_scheme (s : Scheme) : ':' ∉ s.text.toList := by
  cases s <;> decide

theorem scheme_text_inj {s t : Scheme} (h : s.text.toList = t.text.toList) : s = t := by
  cases s <;> cases t <;> first | rfl | exact absurd h (by decide)

theorem IsHost.colon_not_mem {h : String} (hh : IsHost h) : ':' ∉ h.toList :=
  fun hm => (hh.2 ':' hm).2 rfl

theorem IsHost.slash_not_mem {h : String} (hh : IsHost h) : '/' ∉ h.toList :=
  fun hm => (hh.2 '/' hm).1 rfl

theorem IsPort.slash_not_mem {d : String} (hd : IsPort d) : '/' ∉ d.toList :=
  fun hm => absurd (hd.2 '/' hm) (by decide)

theorem slash_mem_url (e : Endpoint) : '/' ∈ e.url.toList := by
  rw [e.toList_url]
  simp

theorem toList_hostPort (h d : String) :
    (h ++ ":" ++ d).toList = h.toList ++ ':' :: d.toList := by
  simp only [String.toList_append, List.append_assoc]
  rfl

theorem slash_not_mem_hostPort (e : Endpoint) : '/' ∉ (e.host ++ ":" ++ e.port).toList := by
  rw [toList_hostPort]
  simp [e.isHost.slash_not_mem, e.isPort.slash_not_mem]

/-- The URL can be taken apart again: neither scheme nor host holds a colon. -/
theorem Endpoint.url_inj {e f : Endpoint} (h : e.url = f.url) : e = f := by
  have hl := congrArg String.toList h
  rw [e.toList_url, f.toList_url] at hl
  obtain ⟨hs, hl⟩ := (Text.append_cons_inj (colon_not_mem_scheme _) (colon_not_mem_scheme _)).mp hl
  obtain ⟨hh, hl⟩ := (Text.append_cons_inj e.isHost.colon_not_mem f.isHost.colon_not_mem).mp
    (List.cons.inj (List.cons.inj hl).2).2
  exact Endpoint.eq_of_fields (scheme_text_inj hs) (String.toList_injective hh)
    (String.toList_injective (List.append_cancel_right hl))

/-- No text is two endpoints: the full form has a slash, and of the others one has a colon. -/
theorem denotes_unique {u : String} {e f : Endpoint} (he : Denotes u e) (hf : Denotes u f) :
    e = f := by
  generalize hu : u = v at hf
  cases he with
  | url =>
    cases hf with
    | url => exact Endpoint.url_inj hu
    | hostPort => exact absurd (hu ▸ slash_mem_url e) (slash_not_mem_hostPort f)
    | host => exact absurd (hu ▸ slash_mem_url e) f.isHost.slash_not_mem
  | hostPort _ hs =>
    cases hf with
    | url => exact absurd (hu ▸ slash_mem_url f) (slash_not_mem_hostPort e)
    | hostPort _ hs' =>
      have hl := congrArg String.toList hu
      rw [toList_hostPort, toList_hostPort] at hl
      obtain ⟨hh, hp⟩ :=
        (Text.append_cons_inj e.isHost.colon_not_mem f.isHost.colon_not_mem).mp hl
      exact Endpoint.eq_of_fields (hs.trans hs'.symm) (String.toList_injective hh)
        (String.toList_injective hp)
    | host =>
      refine absurd ?_ f.isHost.colon_not_mem
      rw [← hu, toList_hostPort]
      simp
  | host _ hs hp =>
    cases hf with
    | url => exact absurd (hu ▸ slash_mem_url f) e.isHost.slash_not_mem
    | hostPort =>
      refine absurd ?_ e.isHost.colon_not_mem
      rw [hu, toList_hostPort]
      simp
    | host _ hs' hp' => exact Endpoint.eq_of_fields (hs.trans hs'.symm) hu (hp.trans hp'.symm)

/-! ## What the two patterns match -/

theorem notSlashColon_iff {c : Char} : notSlashColon c = true ↔ c ≠ '/' ∧ c ≠ ':' := by
  simp [notSlashColon]

/-- `([^/:]+)` matches the hosts. -/
theorem matches_host {b : Bool} {u : List Char} {c : List (Nat × List Char)} :
    Regex.Matches (.plus (.cls notSlashColon)) b u c ↔ IsHost (String.ofList u) ∧ c = [] := by
  rw [Regex.matches_plus_cls, IsHost, String.toList_ofList]
  simp only [notSlashColon_iff, and_assoc]

/-- `(:[0-9]+)` matches a colon and a port. -/
theorem matches_port {b : Bool} {u : List Char} {c : List (Nat × List Char)} :
    Regex.Matches (.seq (.lit ":".toList) (.plus (.cls Char.isDigit))) b u c ↔
      (∃ d, IsPort d ∧ u = ':' :: d.toList) ∧ c = [] := by
  rw [Regex.matches_seq]
  constructor
  · rintro ⟨u₁, u₂, c₁, c₂, rfl, rfl, h₁, h₂⟩
    obtain ⟨rfl, rfl⟩ := Regex.matches_lit.mp h₁
    obtain ⟨hne, hall, rfl⟩ := Regex.matches_plus_cls.mp h₂
    exact ⟨⟨String.ofList u₂, ⟨by simpa using hne, by simpa using hall⟩, by simp⟩, rfl⟩
  · rintro ⟨⟨d, ⟨hne, hall⟩, rfl⟩, rfl⟩
    exact ⟨[':'], d.toList, [], [], rfl, rfl, Regex.matches_lit.mpr ⟨rfl, rfl⟩,
      Regex.matches_plus_cls.mpr ⟨hne, hall, rfl⟩⟩

/-- `(https?)` matches the two schemes. -/
theorem matches_scheme {b : Bool} {u : List Char} {c : List (Nat × List Char)} :
    Regex.Matches (.seq (.lit "http".toList) (.opt (.lit "s".toList))) b u c ↔
      (∃ s : Scheme, u = s.text.toList) ∧ c = [] := by
  rw [Regex.matches_seq]
  constructor
  · rintro ⟨u₁, u₂, c₁, c₂, rfl, rfl, h₁, h₂⟩
    obtain ⟨rfl, rfl⟩ := Regex.matches_lit.mp h₁
    rcases Regex.matches_opt.mp h₂ with h | ⟨rfl, rfl⟩
    · obtain ⟨rfl, rfl⟩ := Regex.matches_lit.mp h
      exact ⟨⟨.https, rfl⟩, rfl⟩
    · exact ⟨⟨.http, rfl⟩, rfl⟩
  · rintro ⟨⟨s, rfl⟩, rfl⟩
    refine ⟨"http".toList, match s with | .http => [] | .https => ['s'], [], [], ?_, rfl,
      Regex.matches_lit.mpr ⟨rfl, rfl⟩, Regex.matches_opt.mpr ?_⟩
    · cases s <;> rfl
    · cases s with
      | http => exact Or.inr ⟨rfl, rfl⟩
      | https => exact Or.inl (Regex.matches_lit.mpr ⟨rfl, rfl⟩)

/-- The first pattern matches the full URLs. -/
theorem matches_urlPattern1 {u : List Char} :
    (∃ c, Regex.Matches urlPattern1 true u c) ↔ ∃ e : Endpoint, u = e.url.toList := by
  constructor
  · rintro ⟨c, hm⟩
    -- the pattern is taken apart from the left: scheme, host, port, path
    obtain ⟨_, _, _, _, rfl, -, hbol, hm⟩ := Regex.matches_seq.mp hm
    obtain ⟨-, rfl, -⟩ := Regex.matches_bol.mp hbol
    obtain ⟨_, _, _, _, rfl, -, hscheme, hm⟩ := Regex.matches_seq.mp hm
    obtain ⟨_, -, hscheme⟩ := Regex.matches_group.mp hscheme
    obtain ⟨⟨s, rfl⟩, -⟩ := matches_scheme.mp hscheme
    obtain ⟨_, _, _, _, rfl, -, hsep, hm⟩ := Regex.matches_seq.mp hm
    obtain ⟨rfl, -⟩ := Regex.matches_lit.mp hsep
    obtain ⟨h, _, _, _, rfl, -, hhost, hm⟩ := Regex.matches_seq.mp hm
    obtain ⟨_, -, hhost⟩ := Regex.matches_group.mp hhost
    obtain ⟨hh, -⟩ := matches_host.mp hhost
    obtain ⟨_, _, _, _, rfl, -, hport, hpath⟩ := Regex.matches_seq.mp hm
    obtain ⟨_, -, hport⟩ := Regex.matches_group.mp hport
    obtain ⟨⟨d, hd, rfl⟩, -⟩ := matches_port.mp hport
    obtain ⟨rfl, -⟩ := Regex.matches_lit.mp hpath
    have hl : (String.ofList h).toList = h := String.toList_ofList
    refine ⟨⟨s, String.ofList h, d, hh, hd⟩, ?_⟩
    simp only [Endpoint.toList_url, hl]
    rfl
  · rintro ⟨e, rfl⟩
    rw [Endpoint.toList_url]
    have hhost : IsHost (String.ofList e.host.toList) := by
      rw [String.ofList_toList]
      exact e.isHost
    exact ⟨_, Regex.matches_seq.mpr ⟨[], _, _, _, rfl, rfl, .bol,
      Regex.matches_seq.mpr ⟨_, _, _, _, rfl, rfl,
        .group (matches_scheme.mpr ⟨⟨e.scheme, rfl⟩, rfl⟩),
      Regex.matches_seq.mpr ⟨"://".toList, e.host.toList ++ ':' :: (e.port.toList ++
          "/ce-monitor/services/CEMonitor".toList), _, _, rfl, rfl,
        Regex.matches_lit.mpr ⟨rfl, rfl⟩,
      Regex.matches_seq.mpr ⟨_, _, _, _, rfl, rfl, .group (matches_host.mpr ⟨hhost, rfl⟩),
      Regex.matches_seq.mpr ⟨':' :: e.port.toList, _, _, _, rfl, rfl,
        .group (matches_port.mpr ⟨⟨e.port, e.isPort, rfl⟩, rfl⟩),
        Regex.matches_lit.mpr ⟨rfl, rfl⟩⟩⟩⟩⟩⟩⟩

/-- The second pattern matches a host, or a host and a port, and captures them. -/
theorem matches_urlPattern2 {u : List Char} {c : List (Nat × List Char)} :
    Regex.Matches urlPattern2 true u c ↔
      (∃ h, IsHost h ∧ u = h.toList ∧ c = [(1, h.toList)]) ∨
      ∃ h d, IsHost h ∧ IsPort d ∧ u = (h ++ ":" ++ d).toList ∧
        c = [(1, h.toList), (2, ':' :: d.toList)] := by
  constructor
  · intro hm
    obtain ⟨_, _, _, _, rfl, rfl, hbol, hrest⟩ := Regex.matches_seq.mp hm
    obtain ⟨-, rfl, rfl⟩ := Regex.matches_bol.mp hbol
    obtain ⟨h, _, _, _, rfl, rfl, hgroup, hopt⟩ := Regex.matches_seq.mp hrest
    obtain ⟨_, rfl, hhost⟩ := Regex.matches_group.mp hgroup
    obtain ⟨hh, rfl⟩ := matches_host.mp hhost
    rcases Regex.matches_opt.mp hopt with hgroup | ⟨rfl, rfl⟩
    · obtain ⟨_, rfl, hport⟩ := Regex.matches_group.mp hgroup
      obtain ⟨⟨d, hd, rfl⟩, rfl⟩ := matches_port.mp hport
      refine Or.inr ⟨String.ofList h, d, hh, hd, ?_, ?_⟩
      · rw [toList_hostPort, String.toList_ofList]
        rfl
      · rw [String.toList_ofList]
        rfl
    · refine Or.inl ⟨String.ofList h, hh, ?_, ?_⟩
      · rw [String.toList_ofList, List.append_nil]
        rfl
      · rw [String.toList_ofList]
        rfl
  · have hhost : ∀ h : String, IsHost h → ∀ b,
        Regex.Matches (.plus (.cls notSlashColon)) b h.toList [] := by
      intro h hh b
      rw [matches_host, String.ofList_toList]
      exact ⟨hh, rfl⟩
    rintro (⟨h, hh, rfl, rfl⟩ | ⟨h, d, hh, hd, rfl, rfl⟩)
    · exact Regex.matches_seq.mpr ⟨[], _, [], _, rfl, rfl, .bol,
        Regex.matches_seq.mpr ⟨_, [], _, [], (List.append_nil _).symm, rfl, .group (hhost h hh _),
          Regex.matches_opt.mpr (Or.inr ⟨rfl, rfl⟩)⟩⟩
    · rw [toList_hostPort]
      exact Regex.matches_seq.mpr ⟨[], _, [], _, rfl, rfl, .bol,
        Regex.matches_seq.mpr ⟨_, _, _, _, rfl, rfl, .group (hhost h hh _),
          Regex.matches_opt.mpr (Or.inl (.group (matches_port.mpr ⟨⟨d, hd, rfl⟩, rfl⟩)))⟩⟩

/-! ## The answer -/

/-- The endpoint with the scheme and the port that a user may leave out. -/
def defaultEndpoint (h : String) (hh : IsHost h) : Endpoint :=
  ⟨.https, h, "8443", hh, by decide⟩

/-- Only a text that denotes an endpoint is matched by one of the patterns. -/
theorem denotes_of_matches {u : String} {c : List (Nat × List Char)}
    (h : Regex.Matches urlPattern1 true u.toList c ∨ Regex.Matches urlPattern2 true u.toList c) :
    ∃ e, Denotes u e := by
  rcases h with h | h
  · obtain ⟨e, he⟩ := matches_urlPattern1.mp ⟨c, h⟩
    rw [String.toList_injective he]
    exact ⟨e, .url e⟩
  · rcases matches_urlPattern2.mp h with ⟨t, ht, hu, -⟩ | ⟨t, d, ht, hd, hu, -⟩
    · rw [String.toList_injective hu]
      exact ⟨defaultEndpoint t ht, .host (defaultEndpoint t ht) rfl rfl⟩
    · rw [String.toList_injective hu]
      exact ⟨⟨.https, t, d, ht, hd⟩, .hostPort ⟨.https, t, d, ht, hd⟩ rfl⟩

/-- A text that denotes no endpoint is answered with the empty text. -/
theorem checkCEMonURL_of_not_denotes {u : String} (hu : Text.NulFree u)
    (h : ∀ e, ¬Denotes u e) : checkCEMonURL u = "" := by
  have h₁ : Regex.fullMatch urlPattern1 u.toList = none := by
    rw [Regex.fullMatch_eq_none_iff]
    intro c hm
    obtain ⟨e, he⟩ := denotes_of_matches (Or.inl hm)
    exact h e he
  have h₂ : Regex.fullMatch urlPattern2 u.toList = none := by
    rw [Regex.fullMatch_eq_none_iff]
    intro c hm
    obtain ⟨e, he⟩ := denotes_of_matches (Or.inr hm)
    exact h e he
  rw [checkCEMonURL, Text.cStr_of_nulFree hu, h₁, h₂]

/-- A full URL is answered with itself. -/
theorem checkCEMonURL_url {e : Endpoint} (hu : Text.NulFree e.url) :
    checkCEMonURL e.url = e.url := by
  cases h₁ : Regex.fullMatch urlPattern1 e.url.toList with
  | none =>
    obtain ⟨c, hm⟩ := matches_urlPattern1.mpr ⟨e, rfl⟩
    exact absurd hm (Regex.fullMatch_eq_none_iff.mp h₁ c)
  | some what => rw [checkCEMonURL, Text.cStr_of_nulFree hu, h₁]

/-- The first pattern needs a slash. -/
theorem fullMatch_urlPattern1_of_slash_not_mem {u : String} (h : '/' ∉ u.toList) :
    Regex.fullMatch urlPattern1 u.toList = none := by
  rw [Regex.fullMatch_eq_none_iff]
  intro c hm
  obtain ⟨e, he⟩ := matches_urlPattern1.mp ⟨c, hm⟩
  exact h (he ▸ slash_mem_url e)

/-- A short form goes through the second pattern, whose match is the only one. -/
theorem checkCEMonURL_of_urlPattern2 {u : String} {c : List (Nat × List Char)}
    (hu : Text.NulFree u) (hslash : '/' ∉ u.toList)
    (hm : Regex.Matches urlPattern2 true u.toList c)
    (hunique : ∀ d, Regex.Matches urlPattern2 true u.toList d → d = c) :
    checkCEMonURL u =
      if Regex.capture c 2 = [] then
        "https://" ++ String.ofList (Regex.capture c 1) ++ ":8443/ce-monitor/services/CEMonitor"
      else "https://" ++ u ++ "/ce-monitor/services/CEMonitor" := by
  rw [checkCEMonURL, Text.cStr_of_nulFree hu, fullMatch_urlPattern1_of_slash_not_mem hslash,
    Regex.fullMatch_eq_some hm hunique]

/-- A text that denotes an endpoint is answered with the URL of that endpoint. -/
theorem checkCEMonURL_of_denotes {u : String} {e : Endpoint} (hu : Text.NulFree u)
    (h : Denotes u e) : checkCEMonURL u = e.url := by
  cases h with
  | url => exact checkCEMonURL_url hu
  | hostPort _ hs =>
    have hm := matches_urlPattern2.mpr (Or.inr ⟨e.host, e.port, e.isHost, e.isPort, rfl, rfl⟩)
    rw [checkCEMonURL_of_urlPattern2 hu (slash_not_mem_hostPort e) hm]
    · rw [if_neg (by simp [Regex.capture]), Endpoint.url, hs]
      simp only [String.append_assoc]
      rfl
    · intro c hc
      rcases matches_urlPattern2.mp hc with ⟨t, ht, hu, -⟩ | ⟨t, d, ht, hd, hu, rfl⟩
      · -- a host alone has no colon
        refine absurd ?_ ht.colon_not_mem
        rw [← hu, toList_hostPort]
        simp
      · rw [toList_hostPort, toList_hostPort] at hu
        obtain ⟨hh, hp⟩ := (Text.append_cons_inj e.isHost.colon_not_mem ht.colon_not_mem).mp hu
        rw [hh, hp]
  | host _ hs hp =>
    have hm := matches_urlPattern2.mpr (Or.inl ⟨e.host, e.isHost, rfl, rfl⟩)
    rw [checkCEMonURL_of_urlPattern2 hu e.isHost.slash_not_mem hm]
    · have hcap : Regex.capture [(1, e.host.toList)] 1 = e.host.toList := rfl
      have hport : Regex.capture [(1, e.host.toList)] 2 = [] := rfl
      rw [if_pos hport, hcap, String.ofList_toList, Endpoint.url, hs, hp]
      simp only [String.append_assoc]
      rfl
    · intro c hc
      rcases matches_urlPattern2.mp hc with ⟨t, ht, hu, rfl⟩ | ⟨t, d, ht, hd, hu, -⟩
      · rw [hu]
      · refine absurd ?_ e.isHost.colon_not_mem
        rw [hu, toList_hostPort]
        simp

theorem Endpoint.url_ne_empty (e : Endpoint) : e.url ≠ "" := by
  intro h
  have hmem := slash_mem_url e
  rw [h] at hmem
  cases hmem

/--
**The URLs that are accepted are the three ways to write an endpoint.**

The answer is the full URL of the endpoint: the text itself when it was written in full, and
otherwise `https://h:d/ce-monitor/services/CEMonitor`, with 8443 for a port that is not given.
-/
theorem checkCEMonURL_accepts_iff (u : String) (hu : Text.NulFree u) :
    (checkCEMonURL u ≠ "" ↔
      (∃ e : Endpoint, u = e.url) ∨ IsHost u ∨ ∃ h d, IsHost h ∧ IsPort d ∧ u = h ++ ":" ++ d) ∧
    (∀ e : Endpoint, u = e.url → checkCEMonURL u = u) ∧
    (IsHost u → checkCEMonURL u = "https://" ++ u ++ ":8443/ce-monitor/services/CEMonitor") ∧
    ∀ h d, IsHost h → IsPort d → u = h ++ ":" ++ d →
      checkCEMonURL u = "https://" ++ h ++ ":" ++ d ++ "/ce-monitor/services/CEMonitor" := by
  refine ⟨⟨?_, ?_⟩, ?_, ?_, ?_⟩
  · intro hne
    by_cases hd : ∃ e, Denotes u e
    · obtain ⟨e, he⟩ := hd
      cases he with
      | url => exact Or.inl ⟨e, rfl⟩
      | hostPort => exact Or.inr (Or.inr ⟨e.host, e.port, e.isHost, e.isPort, rfl⟩)
      | host => exact Or.inr (Or.inl e.isHost)
    · exact absurd (checkCEMonURL_of_not_denotes hu fun e he => hd ⟨e, he⟩) hne
  · rintro (⟨e, rfl⟩ | hh | ⟨h, d, hh, hd, rfl⟩)
    · rw [checkCEMonURL_url hu]
      exact e.url_ne_empty
    · rw [checkCEMonURL_of_denotes hu (.host (defaultEndpoint u hh) rfl rfl)]
      exact Endpoint.url_ne_empty _
    · rw [checkCEMonURL_of_denotes hu (.hostPort ⟨.https, h, d, hh, hd⟩ rfl)]
      exact Endpoint.url_ne_empty _
  · rintro e rfl
    exact checkCEMonURL_url hu
  · intro hh
    rw [checkCEMonURL_of_denotes hu (.host (defaultEndpoint u hh) rfl rfl), Endpoint.url]
    show "https" ++ "://" ++ u ++ ":" ++ "8443" ++ _ = _
    simp only [String.append_assoc]
    rfl
  · rintro h d hh hd rfl
    rw [checkCEMonURL_of_denotes hu (.hostPort ⟨.https, h, d, hh, hd⟩ rfl)]
    rfl

/-- A host with a port of its own. -/
theorem checkCEMonURL_hostPort_accepted :
    checkCEMonURL "ce.example:9443" ≠ "" ∧
    checkCEMonURL "ce.example:9443"
      = "https://ce.example:9443/ce-monitor/services/CEMonitor" := by
  obtain ⟨hiff, -, -, hport⟩ := checkCEMonURL_accepts_iff "ce.example:9443" (by decide)
  have hh : IsHost "ce.example" := by decide
  have hd : IsPort "9443" := by decide
  exact ⟨hiff.mpr (Or.inr (Or.inr ⟨"ce.example", "9443", hh, hd, rfl⟩)),
    hport "ce.example" "9443" hh hd rfl⟩

/-! ## Comparing answers -/

theorem exists_denotes_of_accepted {u : String} (hu : Text.NulFree u)
    (h : checkCEMonURL u ≠ "") : ∃ e, Denotes u e := by
  by_cases hd : ∃ e, Denotes u e
  · exact hd
  · exact absurd (checkCEMonURL_of_not_denotes hu fun e he => hd ⟨e, he⟩) h

/-- The URL of an endpoint has no NUL where its short forms have none. -/
theorem nulFree_url {u : String} {e : Endpoint} (hu : Text.NulFree u) (h : Denotes u e) :
    Text.NulFree e.url := by
  have hhost : Text.NulFree e.host := by
    cases h with
    | url =>
      intro c hc
      refine hu c ?_
      rw [e.toList_url]
      simp [hc]
    | hostPort =>
      intro c hc
      refine hu c ?_
      rw [toList_hostPort]
      simp [hc]
    | host => exact hu
  have hport : Text.NulFree e.port := by
    rintro c hc rfl
    exact absurd (e.isPort.2 _ hc) (by decide)
  have hscheme : Text.NulFree e.scheme.text := by cases e.scheme <;> decide
  have hpath : Text.NulFree "/ce-monitor/services/CEMonitor" := by decide
  intro c hc
  rw [e.toList_url] at hc
  simp only [List.mem_append, List.mem_cons] at hc
  rcases hc with hc | rfl | rfl | rfl | hc | rfl | hc | hc
  · exact hscheme c hc
  · decide
  · decide
  · decide
  · exact hhost c hc
  · decide
  · exact hport c hc
  · exact hpath c hc

/--
**Two accepted texts get the same answer exactly when they denote the same endpoint**, and
checking an answer again changes nothing, also when it is the refusal.
-/
theorem checkCEMonURL_eq_iff_and_idempotent :
    (∀ u v, Text.NulFree u → Text.NulFree v → checkCEMonURL u ≠ "" → checkCEMonURL v ≠ "" →
      (checkCEMonURL u = checkCEMonURL v ↔ ∃ e, Denotes u e ∧ Denotes v e)) ∧
    ∀ u, Text.NulFree u → checkCEMonURL (checkCEMonURL u) = checkCEMonURL u := by
  constructor
  · intro u v hu hv hau hav
    obtain ⟨e, he⟩ := exists_denotes_of_accepted hu hau
    obtain ⟨f, hf⟩ := exists_denotes_of_accepted hv hav
    rw [checkCEMonURL_of_denotes hu he, checkCEMonURL_of_denotes hv hf]
    constructor
    · intro h
      obtain rfl := Endpoint.url_inj h
      exact ⟨e, he, hf⟩
    · rintro ⟨g, hgu, hgv⟩
      rw [denotes_unique he hgu, denotes_unique hf hgv]
  · intro u hu
    by_cases hd : ∃ e, Denotes u e
    · obtain ⟨e, he⟩ := hd
      rw [checkCEMonURL_of_denotes hu he, checkCEMonURL_url (nulFree_url hu he)]
    · have hrefused := checkCEMonURL_of_not_denotes hu fun e he => hd ⟨e, he⟩
      rw [hrefused]
      refine checkCEMonURL_of_not_denotes (by decide) ?_
      intro e he
      generalize hempty : "" = w at he
      cases he with
      | url => exact e.url_ne_empty hempty.symm
      | hostPort =>
        have hl := congrArg String.toList hempty
        rw [toList_hostPort] at hl
        exact absurd hl.symm (by simp)
      | host => exact e.isHost.1 (hempty ▸ rfl)

/-- A host and its full URL. -/
theorem checkCEMonURL_host_eq_url :
    checkCEMonURL "ce" = checkCEMonURL "https://ce:8443/ce-monitor/services/CEMonitor" := by
  have hh : IsHost "ce" := by decide
  refine (checkCEMonURL_eq_iff_and_idempotent.1 "ce"
    "https://ce:8443/ce-monitor/services/CEMonitor" (by decide) (by decide) (by decide)
    (by decide)).mpr ⟨defaultEndpoint "ce" hh, ?_, ?_⟩
  · exact .host (defaultEndpoint "ce" hh) rfl rfl
  · exact .url (defaultEndpoint "ce" hh)

end CEMonitor
