import KeliAgent.Transport
import KeliAgent.Ktp.Reconnect

/-!
# Startup lines

At startup the agent prints the URLs of the tunnel connections with the token redacted
(`tunnel_control.rs`, `tunnel_data.rs`). The redaction cuts the URL at its first question mark and
looks for parameters named `token` after it.

* `redact_tokenUrl`: a base hides every token that is appended to it or shows every one of them.
* **`startup_lines_hide_token_iff`**: the lines do not depend on the token exactly if the endpoint
  has no query, or one whose last parameter is itself named `token`.
-/

namespace KeliAgent

/-! ## The lines -/

/-- `redact` is applied to each parameter of the query. -/
def redactQuery (redact : String → String) (url : String) : String :=
  match Text.splitOnce url "?" with
  | none => url
  | some (base, query) =>
    base ++ "?" ++ "&".intercalate ((Text.split query (· == '&')).map redact)

namespace TunnelControl

def redactPart (part : String) : String :=
  if (Text.splitOnce part "=").any fun (key, _) => key == "token" then "token=redacted" else part

def redactTokenInUrl : String → String := redactQuery redactPart

def tunnelControlStartupLine (url : String) (enabled : Bool) : String :=
  if !enabled then "tunnel control: disabled"
  else "tunnel control: enabled url=" ++ redactTokenInUrl url

end TunnelControl

namespace TunnelData

def redactPart (part : String) : String :=
  (((Text.splitOnce part "=").filter fun (key, _) => key == "token").map fun (key, _) =>
    key ++ "=redacted").getD part

def redactTokenInUrl : String → String := redactQuery redactPart

def ktpTcpAuthVersionLabel : KtpTcpAuthVersion → String
  | .v1 => "v1"
  | .v2 => "v2"

def tunnelDataStartupTransportFields (url : String) (version : KtpTcpAuthVersion) : String :=
  let url := Text.trim url
  if Text.startsWith url "ktp+tls://" || Text.startsWith url "tls://" then
    " carrier=ktp_tls crypto=ktp_aead auth=ktp_token_preface_" ++ ktpTcpAuthVersionLabel version
  else if Text.startsWith url "ktp+tcp://" || Text.startsWith url "tcp://" then
    " carrier=ktp_tcp crypto=ktp_aead auth=ktp_token_preface_" ++ ktpTcpAuthVersionLabel version
  else ""

def tunnelDataStartupLineWithKtpAuthVersion (url : String) (enabled : Bool)
    (version : KtpTcpAuthVersion) : String :=
  if !enabled then "tunnel data: disabled"
  else "tunnel data: enabled url=" ++ redactTokenInUrl url ++
    tunnelDataStartupTransportFields url version

def tunnelDataStartupLine (url : String) (enabled : Bool) : String :=
  tunnelDataStartupLineWithKtpAuthVersion url enabled .v1

/-- The two redactions are one function. -/
theorem redactTokenInUrl_eq : redactTokenInUrl = TunnelControl.redactTokenInUrl := by
  have hpart : redactPart = TunnelControl.redactPart := by
    funext part
    unfold redactPart TunnelControl.redactPart
    cases Text.splitOnce part "=" with
    | none => rfl
    | some cut =>
      obtain ⟨key, value⟩ := cut
      by_cases hkey : key = "token"
      · subst hkey
        rfl
      · simp [Option.filter, hkey]
  rw [redactTokenInUrl, hpart, TunnelControl.redactTokenInUrl]

end TunnelData

/-! ## Tokens in a URL -/

/-- The text has none of the characters that the redaction cuts at. -/
def Uncut (s : String) : Prop := ∀ c ∈ s.toList, c ≠ '?' ∧ c ≠ '&' ∧ c ≠ '='

theorem uncut_of_not_mem {s : String} (hmark : '?' ∉ s.toList) (hampersand : '&' ∉ s.toList)
    (hsign : '=' ∉ s.toList) : Uncut s := by
  intro c hc
  refine ⟨?_, ?_, ?_⟩
  · rintro rfl
    exact hmark hc
  · rintro rfl
    exact hampersand hc
  · rintro rfl
    exact hsign hc

theorem ofNat_ne_of_isUnreserved {byte : UInt8} (h : isUnreserved byte = true) {c : Char}
    (hc : isUnreserved (UInt8.ofNat c.toNat) = false) : Char.ofNat byte.toNat ≠ c := by
  rintro rfl
  have hvalid : byte.toNat.isValidChar := Or.inl (by have := byte.toNat_lt; omega)
  rw [Char.toNat_ofNat, if_pos hvalid, UInt8.ofNat_toNat, h] at hc
  cases hc

theorem uncut_upperHexByte (byte : UInt8) :
    ∀ c ∈ upperHexByte byte, c ≠ '?' ∧ c ≠ '&' ∧ c ≠ '=' := by
  have hdigit : ∀ digit : Fin 16, (Nat.digitChar digit).toUpper ≠ '?' ∧
      (Nat.digitChar digit).toUpper ≠ '&' ∧ (Nat.digitChar digit).toUpper ≠ '=' := by
    decide
  have hlt := byte.toNat_lt
  refine List.forall_mem_cons.mpr ⟨hdigit ⟨byte.toNat / 16, by omega⟩, ?_⟩
  exact List.forall_mem_singleton.mpr (hdigit ⟨byte.toNat % 16, by omega⟩)

/-- Percent-encoding leaves no character that the redaction cuts at. -/
theorem uncut_percentEncode (value : String) : Uncut (percentEncode value) := by
  intro c hc
  rw [percentEncode, String.toList_ofList, List.mem_flatMap] at hc
  obtain ⟨byte, -, hc⟩ := hc
  split_ifs at hc with hbyte
  · cases List.mem_singleton.mp hc
    exact ⟨ofNat_ne_of_isUnreserved hbyte (by decide), ofNat_ne_of_isUnreserved hbyte (by decide),
      ofNat_ne_of_isUnreserved hbyte (by decide)⟩
  · rcases List.mem_cons.mp hc with rfl | hc
    · decide
    · exact uncut_upperHexByte byte c hc

/-- The base hides what follows it: it has no query, or the last parameter of its query is named
`token`. -/
def hidesToken (base : String) : Bool :=
  match Text.splitOnce base "?" with
  | none => true
  | some (_, query) =>
    ((Text.split query (· == '&')).getLast?.bind fun part => Text.splitOnce part "=").any
      fun (key, _) => key == "token"

section Redaction

variable {base path token : String}

theorem toList_questionMark : "?".toList = ['?'] := by decide

theorem toList_equalsSign : "=".toList = ['='] := by decide

/-- The URL with a token. -/
def tokenUrl (base path token : String) : String :=
  base ++ path ++ "?" ++ ("token" ++ "=" ++ token)

/-- What the URL has after its base. -/
def tokenSuffix (path token : String) : String := path ++ "?" ++ ("token" ++ "=" ++ token)

theorem forall_beq_eq_false {d : Char} {cs : List Char} (h : d ∉ cs) :
    ∀ c ∈ cs, (c == d) = false := by
  intro c hc
  refine beq_eq_false_iff_ne.mpr ?_
  rintro rfl
  exact h hc

/-- The parameter with the token has no separator. -/
theorem ampersand_not_mem (htoken : Uncut token) :
    '&' ∉ ("token" ++ "=" ++ token).toList := by
  rw [String.toList_append, List.mem_append]
  exact not_or.mpr ⟨by decide, fun hc => (htoken _ hc).2.1 rfl⟩

/-- A base without a query hides the token. -/
theorem redact_of_no_query (hbase : '?' ∉ base.toList) (hpath : Uncut path) (htoken : Uncut token) :
    TunnelControl.redactTokenInUrl (tokenUrl base path token) =
      base ++ path ++ "?" ++ "token=redacted" := by
  have hbefore : '?' ∉ (base ++ path).toList := by
    rw [String.toList_append, List.mem_append]
    exact not_or.mpr ⟨hbase, fun hc => (hpath _ hc).1 rfl⟩
  have hcut : Text.splitOnce (tokenUrl base path token) "?" =
      some (base ++ path, "token" ++ "=" ++ token) := by
    rw [show tokenUrl base path token =
      (base ++ path) ++ ("?" ++ ("token" ++ "=" ++ token)) by
        simp only [tokenUrl, String.append_assoc]]
    exact Text.splitOnce_append toList_questionMark hbefore _
  have hpart : Text.splitOnce ("token" ++ "=" ++ token) "=" = some ("token", token) := by
    have hkey : '=' ∉ "token".toList := by decide
    rw [String.append_assoc]
    exact Text.splitOnce_append toList_equalsSign hkey _
  simp only [TunnelControl.redactTokenInUrl, redactQuery, hcut,
    Text.split_of_forall (forall_beq_eq_false (ampersand_not_mem htoken)), List.map_cons,
    List.map_nil, TunnelControl.redactPart, hpart]
  rfl

/-- The suffix goes to the last parameter of the query of a base. -/
theorem tokenUrl_of_query (before query : String) :
    tokenUrl (before ++ ("?" ++ query)) path token =
      before ++ ("?" ++ (query ++ tokenSuffix path token)) := by
  simp only [tokenUrl, tokenSuffix, String.append_assoc]

/-- The last parameter of the base, with the suffix, keeps its name if it has one, and is not named
`token` otherwise. -/
theorem redactPart_append (hpath : Uncut path) (last : String) :
    TunnelControl.redactPart (last ++ tokenSuffix path token) =
      if (Text.splitOnce last "=").any fun (key, _) => key == "token" then "token=redacted"
      else last ++ tokenSuffix path token := by
  rcases Text.splitOnce_cases toList_equalsSign last with
    ⟨hlast, hnone⟩ | ⟨key, value, hkey, rfl, hsome⟩
  · have hbefore : '=' ∉ (last ++ (path ++ "?" ++ "token")).toList := by
      simp only [String.toList_append, List.mem_append, not_or]
      exact ⟨hlast, ⟨fun hc => (hpath _ hc).2.2 rfl, by decide⟩, by decide⟩
    have hcut : Text.splitOnce (last ++ tokenSuffix path token) "=" =
        some (last ++ (path ++ "?" ++ "token"), token) := by
      rw [show last ++ tokenSuffix path token =
        last ++ (path ++ "?" ++ "token") ++ ("=" ++ token) by
          simp only [tokenSuffix, String.append_assoc]]
      exact Text.splitOnce_append toList_equalsSign hbefore _
    have hne : last ++ (path ++ "?" ++ "token") ≠ "token" := by
      intro heq
      have hmem : '?' ∈ (last ++ (path ++ "?" ++ "token")).toList := by
        simp only [String.toList_append, List.mem_append]
        exact Or.inr (Or.inl (Or.inr (by decide)))
      rw [heq] at hmem
      revert hmem
      decide
    simp only [TunnelControl.redactPart, hcut, hnone, Option.any_some, Option.any_none,
      beq_eq_false_iff_ne.mpr hne]
  · have hcut : Text.splitOnce (key ++ ("=" ++ value) ++ tokenSuffix path token) "=" =
        some (key, value ++ tokenSuffix path token) := by
      rw [String.append_assoc, String.append_assoc]
      exact Text.splitOnce_append toList_equalsSign hkey _
    simp only [TunnelControl.redactPart, hcut, hsome]
    rfl

/-- **A base hides every token or shows every token.** -/
theorem redact_tokenUrl (base : String) (hpath : Uncut path) :
    ∃ line, ∀ token, Uncut token →
      TunnelControl.redactTokenInUrl (tokenUrl base path token) =
        if hidesToken base then line else line ++ token := by
  rcases Text.splitOnce_cases toList_questionMark base with
    ⟨hbase, hnone⟩ | ⟨before, query, hbefore, rfl, hsome⟩
  · refine ⟨base ++ path ++ "?" ++ "token=redacted", fun token htoken => ?_⟩
    rw [hidesToken, hnone, if_pos rfl]
    exact redact_of_no_query hbase hpath htoken
  · obtain ⟨pieces, last, hquery, happend⟩ := Text.split_append (· == '&') query
    obtain ⟨joined, hjoined⟩ := Text.intercalate_append_singleton "&"
      (pieces.map TunnelControl.redactPart)
    have hhides : hidesToken (before ++ ("?" ++ query)) =
        (Text.splitOnce last "=").any fun (key, _) => key == "token" := by
      simp [hidesToken, hsome, hquery]
    have hredacted (token : String) (htoken : Uncut token) :
        TunnelControl.redactTokenInUrl (tokenUrl (before ++ ("?" ++ query)) path token) =
          before ++ "?" ++ (joined ++
            TunnelControl.redactPart (last ++ tokenSuffix path token)) := by
      have hclean : '&' ∉ (tokenSuffix path token).toList := by
        rw [tokenSuffix, String.toList_append, List.mem_append, String.toList_append, List.mem_append]
        exact not_or.mpr ⟨not_or.mpr ⟨fun hc => (hpath _ hc).2.1 rfl, by decide⟩,
          ampersand_not_mem htoken⟩
      rw [tokenUrl_of_query, TunnelControl.redactTokenInUrl, redactQuery,
        Text.splitOnce_append toList_questionMark hbefore]
      simp only [happend _ (forall_beq_eq_false hclean), List.map_append, List.map_cons,
        List.map_nil, hjoined]
    refine ⟨if hidesToken (before ++ ("?" ++ query)) then
        before ++ "?" ++ (joined ++ "token=redacted")
      else before ++ "?" ++ (joined ++ (last ++ (path ++ "?" ++ ("token" ++ "=")))), ?_⟩
    intro token htoken
    rw [hredacted token htoken, redactPart_append hpath, ← hhides]
    split_ifs
    · rfl
    · simp only [tokenSuffix, String.append_assoc]

end Redaction

/-! ## The URLs of the tunnel -/

/-- With an accepted endpoint and a token that is not blank, the URL is built. -/
theorem buildTokenWsUrl_ok {host : UrlHost} {endpoint base token : String} (path : String)
    (hbase : host.normalizeWsBase endpoint = .ok base) (htoken : Text.trim token ≠ "") :
    host.buildTokenWsUrl path endpoint token =
      .ok (tokenUrl base path (percentEncode (Text.trim token))) := by
  simp only [UrlHost.buildTokenWsUrl, requireNonEmpty, if_neg htoken, UrlHost.buildWsUrl, hbase]
  rfl

theorem buildTokenWsUrl_error {host : UrlHost} {endpoint token : String} {error : ProtocolError}
    (path : String) (hbase : host.normalizeWsBase endpoint = .error error)
    (htoken : Text.trim token ≠ "") : host.buildTokenWsUrl path endpoint token = .error error := by
  simp only [UrlHost.buildTokenWsUrl, requireNonEmpty, if_neg htoken, UrlHost.buildWsUrl, hbase]
  rfl

theorem head_normalizeWsBase {host : UrlHost} {endpoint base : String}
    (h : host.normalizeWsBase endpoint = .ok base) : ∃ cs, base.toList = 'w' :: cs := by
  have hscheme : ∀ scheme ∈ UrlHost.wsSchemes, scheme.2.toList.head? = some 'w' := by decide
  simp only [UrlHost.normalizeWsBase] at h
  split_ifs at h
  split at h
  · rename_i ws rest hfind
    cases h
    obtain ⟨⟨scheme, ws'⟩, hmem, hstrip⟩ := List.exists_of_findSome?_eq_some hfind
    obtain ⟨rest', -, heq⟩ := Option.map_eq_some_iff.mp hstrip
    cases heq
    obtain ⟨cs, hcs⟩ := List.head?_eq_some_iff.mp (hscheme _ hmem)
    exact ⟨_, by rw [String.toList_append, hcs, List.cons_append]⟩
  · cases h

/-- A websocket URL has no fields of another carrier. -/
theorem transportFields_of_head {url : String} {cs : List Char} (h : url.toList = 'w' :: cs)
    (version : KtpTcpAuthVersion) :
    TunnelData.tunnelDataStartupTransportFields url version = "" := by
  obtain ⟨ds, hds⟩ : ∃ ds, (Text.trim url).toList = 'w' :: ds := Text.head_trim h (by decide)
  simp only [TunnelData.tunnelDataStartupTransportFields,
    Text.startsWith_of_head_ne "ktp+tls://" hds rfl (by decide),
    Text.startsWith_of_head_ne "tls://" hds rfl (by decide),
    Text.startsWith_of_head_ne "ktp+tcp://" hds rfl (by decide),
    Text.startsWith_of_head_ne "tcp://" hds rfl (by decide)]
  rfl

/-- The startup lines of the two tunnel connections for an endpoint and a token. -/
def startupLines (host : UrlHost) (endpoint token : String) :
    Except ProtocolError String × Except ProtocolError String :=
  ((host.buildTunnelControlWsUrl endpoint token).map
      (TunnelControl.tunnelControlStartupLine · true),
    (host.buildTunnelDataWsUrl endpoint token).map (TunnelData.tunnelDataStartupLine · true))

/-- The lines with an accepted endpoint: each is the line of its base, with the token at its end if
the base does not hide it. -/
theorem startupLines_ok {host : UrlHost} {endpoint base : String}
    (hbase : host.normalizeWsBase endpoint = .ok base) :
    ∃ control data, ∀ token, Text.trim token ≠ "" → startupLines host endpoint token =
      if hidesToken base then (.ok control, .ok data)
      else (.ok (control ++ percentEncode (Text.trim token)),
        .ok (data ++ percentEncode (Text.trim token))) := by
  obtain ⟨control, hcontrol⟩ := redact_tokenUrl base
    (uncut_of_not_mem (s := "/api/clients/tunnel") (by decide) (by decide) (by decide))
  obtain ⟨data, hdata⟩ := redact_tokenUrl base
    (uncut_of_not_mem (s := "/api/clients/tunnel/data") (by decide) (by decide) (by decide))
  refine ⟨"tunnel control: enabled url=" ++ control, "tunnel data: enabled url=" ++ data, ?_⟩
  intro token htoken
  have hencoded := uncut_percentEncode (Text.trim token)
  obtain ⟨ds, hds⟩ : ∃ ds, (tokenUrl base "/api/clients/tunnel/data"
      (percentEncode (Text.trim token))).toList = 'w' :: ds := by
    obtain ⟨cs, hcs⟩ := head_normalizeWsBase hbase
    simp only [tokenUrl, String.toList_append, hcs, List.cons_append]
    exact ⟨_, rfl⟩
  simp only [startupLines, UrlHost.buildTunnelControlWsUrl, UrlHost.buildTunnelDataWsUrl,
    buildTokenWsUrl_ok _ hbase htoken, Except.map, TunnelControl.tunnelControlStartupLine,
    TunnelData.tunnelDataStartupLine, TunnelData.tunnelDataStartupLineWithKtpAuthVersion,
    TunnelData.redactTokenInUrl_eq, hcontrol _ hencoded, hdata _ hencoded,
    transportFields_of_head hds, Bool.not_true, Bool.false_eq_true, if_false, String.append_empty]
  split_ifs
  · rfl
  · rw [String.append_assoc, String.append_assoc]

theorem startupLines_error {host : UrlHost} {endpoint token : String} {error : ProtocolError}
    (hbase : host.normalizeWsBase endpoint = .error error) (htoken : Text.trim token ≠ "") :
    startupLines host endpoint token = (.error error, .error error) := by
  simp only [startupLines, UrlHost.buildTunnelControlWsUrl, UrlHost.buildTunnelDataWsUrl,
    buildTokenWsUrl_error _ hbase htoken, Except.map]

/-- **The startup lines do not depend on the token exactly if the base hides it**: any two tokens
that are not blank have the same lines. -/
theorem startup_lines_hide_token_iff (host : UrlHost) (endpoint : String) :
    (∀ token token', Text.trim token ≠ "" → Text.trim token' ≠ "" →
      startupLines host endpoint token = startupLines host endpoint token') ↔
      ∀ base, host.normalizeWsBase endpoint = .ok base → hidesToken base = true := by
  constructor
  · intro h base hbase
    by_contra hshows
    obtain ⟨control, data, hlines⟩ := startupLines_ok hbase
    have hsame := h "a" "b" (by decide +kernel) (by decide +kernel)
    rw [hlines "a" (by decide +kernel), hlines "b" (by decide +kernel), if_neg hshows,
      if_neg hshows, Prod.mk.injEq] at hsame
    have htokens : percentEncode (Text.trim "a") = percentEncode (Text.trim "b") :=
      (String.append_right_inj control).mp (Except.ok.inj hsame.1)
    revert htokens
    decide +kernel
  · intro h token token' htoken htoken'
    cases hbase : host.normalizeWsBase endpoint with
    | error error => rw [startupLines_error hbase htoken, startupLines_error hbase htoken']
    | ok base =>
      obtain ⟨control, data, hlines⟩ := startupLines_ok hbase
      rw [hlines token htoken, hlines token' htoken', if_pos (h base hbase), if_pos (h base hbase)]

/-- An endpoint with a query is accepted, and both lines show the token. -/
theorem query_in_endpoint_shows_token :
    startupLines .plain "https://panel/?x=1" "secret" =
      (.ok "tunnel control: enabled url=wss://panel/?x=1/api/clients/tunnel?token=secret",
        .ok "tunnel data: enabled url=wss://panel/?x=1/api/clients/tunnel/data?token=secret") ∧
    startupLines .plain "https://panel/?x=1" "secret" ≠
      startupLines .plain "https://panel/?x=1" "other" := by
  decide +kernel

end KeliAgent
