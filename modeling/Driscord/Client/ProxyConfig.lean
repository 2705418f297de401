import Driscord.Signaling.Json

/-!
# Proxies from the environment

`proxy_for_url` looks for the proxy of a url in the environment, and `Transport::connect`
tunnels through it.  No answer stands both for "there is no proxy" and for "the proxy
cannot be used", and `connect` then opens the connection without one.

Main results:

- Theorem `selectProxy_eq`: the variables are tried in the documented order.
- Theorem `never_bypassed_iff`: exactly when a configured proxy is not bypassed.
-/

namespace Driscord
namespace Client

open Signaling

/-- The variables of the environment. -/
abbrev Environment := Bytes → Option Bytes

/-! ## Text -/

/-- `to_lower`. -/
def toLower (letters : Bytes) : Bytes :=
  letters.map fun char => if 65 ≤ char ∧ char ≤ 90 then char + 32 else char

/-- `std::isspace`. -/
def isSpace (char : UInt8) : Bool :=
  char = 32 || (9 ≤ char && char ≤ 13)

/-- The second loop of `trim`. -/
def trimEnd (letters : Bytes) : Bytes :=
  (letters.reverse.dropWhile isSpace).reverse

/-- `trim`. -/
def trim (letters : Bytes) : Bytes :=
  trimEnd (letters.dropWhile isSpace)

/-- The text before and behind the first occurrence of a separator. -/
def splitAtFirst (separator : Bytes) : Bytes → Option (Bytes × Bytes)
  | [] => none
  | char :: rest =>
      if separator.isPrefixOf (char :: rest) then
        some ([], (char :: rest).drop separator.length)
      else (splitAtFirst separator rest).map fun parts => (char :: parts.1, parts.2)

/-- The text before and behind the last occurrence of a character. -/
def splitAtLast (separator : UInt8) (letters : Bytes) : Option (Bytes × Bytes) :=
  (splitAtFirst [separator] letters.reverse).map fun parts =>
    (parts.2.reverse, parts.1.reverse)

/-- `parse_port`. -/
def parsePort (letters : Bytes) : Option Nat :=
  if letters = [] ∨ 5 < letters.length then none
  else if letters.all fun char => 48 ≤ char && char ≤ 57 then
    let value := letters.foldl (fun value char => value * 10 + (char.toNat - 48)) 0
    if value = 0 ∨ 65535 < value then none else some value
  else none

/-- `split_host_port`: the host, and the port if there is one. -/
def splitHostPort (authority : Bytes) : Option (Bytes × Option Nat) :=
  match authority with
  | [] => none
  | 91 :: rest =>
      match splitAtFirst [93] rest with
      | none => none
      | some (host, behind) =>
          if host = [] then none
          else
            match behind with
            | [] => some (host, none)
            | 58 :: port => (parsePort port).map fun port => (host, some port)
            | _ => none
  | authority =>
      match splitAtFirst [58] authority with
      | none => some (authority, none)
      | some (host, port) =>
          if 58 ∈ port then some (authority, none)
          else if host = [] then none
          else (parsePort port).map fun port => (host, some port)

/-! ## Proxies -/

/-- `ProxyConfig::Scheme`. -/
inductive ProxyScheme where
  | http
  | socks5
deriving DecidableEq, Repr

/-- `ProxyConfig`. -/
structure ProxyConfig where
  scheme : ProxyScheme := .http
  host : Bytes
  port : Nat
  username : Bytes := []
  password : Bytes := []
deriving DecidableEq, Repr

/-- `authenticated`. -/
def ProxyConfig.authenticated (proxy : ProxyConfig) : Bool :=
  proxy.username ≠ []

/-- The scheme of a proxy url. -/
def proxyScheme (scheme : Bytes) : Option ProxyScheme :=
  if toLower scheme = text "http" then some .http
  else if toLower scheme = text "socks5" ∨ toLower scheme = text "socks5h" then some .socks5
  else none

/-- The scheme of `parse_proxy_url`, and the text behind it. -/
def takeScheme (letters : Bytes) : Option (ProxyScheme × Bytes) :=
  match splitAtFirst (text "://") letters with
  | none => some (.http, letters)
  | some (scheme, rest) => (proxyScheme scheme).map fun scheme => (scheme, rest)

/-- The username and the password of `parse_proxy_url`, and the text behind them. -/
def takeCredentials (letters : Bytes) : Option (Bytes × Bytes × Bytes) :=
  match splitAtLast 64 letters with
  | none => some ([], [], letters)
  | some (credentials, rest) =>
      let (username, password) := (splitAtFirst [58] credentials).getD (credentials, [])
      if username = [] then none else some (username, password, rest)

/-- `parse_proxy_url`. -/
def parseProxyUrl (letters : Bytes) : Option ProxyConfig :=
  if trim letters = [] then none
  else do
    let (scheme, rest) ← takeScheme (trim letters)
    let (username, password, authority) ← takeCredentials rest
    let (host, port) ← splitHostPort (authority.takeWhile (· ≠ 47))
    return { scheme, host, port := port.getD (if scheme = .socks5 then 1080 else 8080),
             username, password }

/-- One entry of the list of `no_proxy_matches`. -/
def entryMatches (target entry : Bytes) : Bool :=
  if entry = [] then false
  else if entry = text "*" then true
  else
    let (suffix, subdomainOnly) :=
      if (text "*.").isPrefixOf entry then (entry.drop 2, true)
      else if (text ".").isPrefixOf entry then (entry.drop 1, true)
      else (entry, false)
    if suffix = [] then false
    else (!subdomainOnly && target = suffix) || (46 :: suffix).isSuffixOf target

/-- `no_proxy_matches`. -/
def noProxyMatches (noProxy host : Bytes) : Bool :=
  if host = [] then false
  else
    (noProxy.splitOnP fun char => char = 44 || char = 32 || char = 9).any fun entry =>
      entryMatches (toLower host) (toLower (trim entry))

section

variable (env : Environment)

/-- `environment_value`. -/
def environmentValue (name : Bytes) : Option Bytes :=
  match env name with
  | none => none
  | some value => if trim value = [] then none else some (trim value)

/-- `proxy_variable`. -/
def proxyVariable (names : String × String) : Option Bytes :=
  (environmentValue env (text names.1)).or (environmentValue env (text names.2))

/-- `NO_PROXY` names the host. -/
def bypasses (host : Bytes) : Bool :=
  match proxyVariable env ("NO_PROXY", "no_proxy") with
  | none => false
  | some noProxy => noProxyMatches noProxy host

/-- The candidates of `proxy_from_environment`. -/
def candidates (scheme : Bytes) : List (String × String) :=
  if toLower scheme = text "https" ∨ toLower scheme = text "wss" then
    [("HTTPS_PROXY", "https_proxy"), ("ALL_PROXY", "all_proxy"), ("HTTP_PROXY", "http_proxy")]
  else [("HTTP_PROXY", "http_proxy"), ("ALL_PROXY", "all_proxy")]

/-- The loop of `proxy_from_environment`: the first variable decides. -/
def selectProxy : List (String × String) → Option ProxyConfig
  | [] => none
  | names :: rest =>
      match proxyVariable env names with
      | some value => parseProxyUrl value
      | none => selectProxy rest

/-- `proxy_from_environment`. -/
def proxyFromEnvironment (scheme host : Bytes) : Option ProxyConfig :=
  if bypasses env host then none else selectProxy env (candidates scheme)

/-- The scheme that `proxy_for_url` reads, and the host to match `NO_PROXY` against. -/
def targetOf (url : Bytes) : Option (Bytes × Bytes) :=
  match splitAtFirst (text "://") (trim url) with
  | none => none
  | some (scheme, rest) =>
      let authority := rest.takeWhile (· ≠ 47)
      let authority := ((splitAtLast 64 authority).map Prod.snd).getD authority
      (splitHostPort authority).map fun parts => (toLower scheme, parts.1)

/-- `proxy_for_url`. -/
def proxyForUrl (url : Bytes) : Option ProxyConfig :=
  match targetOf url with
  | none => none
  | some (scheme, host) => proxyFromEnvironment env scheme host

/-! ## Connecting -/

/-- `rtc::ProxyServer`, of type `Http`. -/
structure ProxyServer where
  host : Bytes
  port : Nat
deriving DecidableEq, Repr

/-- What `Transport::connect` comes to: an error, or a connection that was opened
through a proxy or without one. -/
inductive ConnectOutcome where
  | failed
  | opened (proxyServer : Option ProxyServer)
deriving DecidableEq, Repr

/-- The WebSocket of `Transport::connect`; `creates` says whether libdatachannel makes
one for this proxy. -/
def openWith (creates : Option ProxyServer → Bool) (proxyServer : Option ProxyServer) :
    ConnectOutcome :=
  if creates proxyServer then .opened proxyServer else .failed

/-- The proxy policy of `Transport::connect`. -/
def connect (creates : Option ProxyServer → Bool) (url : Bytes) : ConnectOutcome :=
  match proxyForUrl env url with
  | none => openWith creates none
  | some proxy =>
      if proxy.scheme ≠ .http then .failed
      else if proxy.authenticated then .failed
      else openWith creates (some ⟨proxy.host, proxy.port⟩)

/-! ## What the environment asks for -/

/-- The variables for a scheme in the documented order, each spelling on its own. -/
def documentedOrder (scheme : Bytes) : List Bytes :=
  (candidates scheme).flatMap fun names => [text names.1, text names.2]

/-- The value of the first variable for a scheme that is not blank. -/
def configuredProxy (scheme : Bytes) : Option Bytes :=
  (documentedOrder scheme).findSome? (environmentValue env)

/-- The host of the part of a url behind its scheme: no user, no port, no path, no
query and no fragment. -/
def hostOf (rest : Bytes) : Bytes :=
  let authority := rest.takeWhile fun char => char ≠ 47 ∧ char ≠ 63 ∧ char ≠ 35
  let authority := ((splitAtLast 64 authority).map Prod.snd).getD authority
  match authority with
  | 91 :: literal => literal.takeWhile (· ≠ 93)
  | authority => authority.takeWhile (· ≠ 58)

/-- The url is a ws or wss url with a host that `NO_PROXY` does not match, and a proxy is
configured for it. -/
structure ProxyConfigured (url scheme rest value : Bytes) : Prop where
  isUrl : url = scheme ++ text "://" ++ rest
  webSocket : toLower scheme = text "ws" ∨ toLower scheme = text "wss"
  hasHost : hostOf rest ≠ []
  notBypassed : bypasses env (hostOf rest) = false
  configured : configuredProxy env scheme = some value

/-- The connection goes through the http proxy that the value names, or fails. -/
def ThroughProxy (value : Bytes) (outcome : ConnectOutcome) : Prop :=
  outcome = .failed ∨ ∃ proxy, parseProxyUrl value = some proxy ∧ proxy.scheme = .http ∧
    outcome = .opened (some ⟨proxy.host, proxy.port⟩)

/-- The loop of `proxy_from_environment` reads the first variable of the documented order. -/
theorem selectProxy_eq (names : List (String × String)) :
    selectProxy env names =
      ((names.flatMap fun names => [text names.1, text names.2]).findSome?
        (environmentValue env)).bind parseProxyUrl := by
  induction names with
  | nil => rfl
  | cons first rest ih =>
      rw [selectProxy, proxyVariable, List.flatMap_cons, List.findSome?_append, ih]
      cases hupper : environmentValue env (text first.1) with
      | some value => simp [hupper]
      | none =>
          cases hlower : environmentValue env (text first.2) with
          | some value => simp [hupper, hlower]
          | none => simp [hupper, hlower]

theorem selectProxy_candidates (scheme : Bytes) :
    selectProxy env (candidates scheme) =
      (configuredProxy env scheme).bind parseProxyUrl :=
  selectProxy_eq env (candidates scheme)

/-! ## Reading the scheme -/

theorem splitAtFirst_append {first : UInt8} {scheme : Bytes} (separator rest : Bytes)
    (hscheme : first ∉ scheme) :
    splitAtFirst (first :: separator) (scheme ++ first :: (separator ++ rest)) =
      some (scheme, rest) := by
  induction scheme with
  | nil => simp [splitAtFirst]
  | cons char scheme ih =>
      have hne : first ≠ char := fun heq => hscheme (by rw [heq]; exact List.mem_cons_self)
      have hrest := ih fun hmem => hscheme (List.mem_cons_of_mem _ hmem)
      simp [splitAtFirst, hne, hrest]

/-- Trimming the end stops at a character that is no space. -/
theorem trimEnd_append (front rest : Bytes) {last : UInt8}
    (hlast : isSpace last = false) :
    trimEnd (front ++ last :: rest) = front ++ last :: trimEnd rest := by
  have hreverse : (front ++ last :: rest).reverse =
      rest.reverse ++ last :: front.reverse := by simp
  rw [trimEnd, trimEnd, hreverse, List.dropWhile_append]
  cases hspaces : (rest.reverse.dropWhile isSpace).isEmpty with
  | true =>
      rw [List.isEmpty_iff] at hspaces
      simp [hspaces, hlast]
  | false => simp

/-- A letter of the scheme is neither a colon nor a space. -/
theorem scheme_char {char : UInt8} {scheme : Bytes} (hmem : char ∈ scheme)
    (hscheme : toLower scheme = text "ws" ∨ toLower scheme = text "wss") :
    char ≠ 58 ∧ isSpace char = false := by
  have hlower : (if 65 ≤ char ∧ char ≤ 90 then char + 32 else char) ∈ toLower scheme :=
    List.mem_map.mpr ⟨char, hmem, rfl⟩
  have hws : text "ws" = [119, 115] := rfl
  have hwss : text "wss" = [119, 115, 115] := rfl
  have hletter : (if 65 ≤ char ∧ char ≤ 90 then char + 32 else char) = 119 ∨
      (if 65 ≤ char ∧ char ≤ 90 then char + 32 else char) = 115 := by
    rcases hscheme with hscheme | hscheme
    · rw [hscheme, hws] at hlower
      simpa using hlower
    · rw [hscheme, hwss] at hlower
      simpa using hlower
  have hspace : isSpace char = true → char = 32 ∨ 9 ≤ char ∧ char ≤ 13 := by
    simp [isSpace]
  by_cases hupper : 65 ≤ char ∧ char ≤ 90
  · rcases hupper with ⟨hge, hle⟩
    refine ⟨by rintro rfl; contradiction, ?_⟩
    by_contra h
    rcases hspace (by simpa using h) with rfl | ⟨-, hsmall⟩
    · contradiction
    · rw [UInt8.le_iff_toNat_le] at hge hsmall
      have hupperStart : (65 : UInt8).toNat = 65 := rfl
      have hspaceEnd : (13 : UInt8).toNat = 13 := rfl
      omega
  · rw [if_neg hupper] at hletter
    rcases hletter with rfl | rfl <;> decide

/-- `proxy_for_url` reads the scheme of a ws or wss url. -/
theorem targetOf_eq {scheme : Bytes} (rest : Bytes)
    (hscheme : toLower scheme = text "ws" ∨ toLower scheme = text "wss") :
    targetOf (scheme ++ text "://" ++ rest) =
      let authority := (trimEnd rest).takeWhile (· ≠ 47)
      (splitHostPort (((splitAtLast 64 authority).map Prod.snd).getD authority)).map
        fun parts => (toLower scheme, parts.1) := by
  have htext : text "://" = [58, 47, 47] := rfl
  have hurl : scheme ++ text "://" ++ rest = scheme ++ 58 :: ([47, 47] ++ rest) := by
    simp [htext]
  obtain ⟨first, letters, rfl⟩ : ∃ first letters, scheme = first :: letters := by
    cases scheme with
    | nil => rcases hscheme with h | h <;> exact absurd h (by decide)
    | cons first letters => exact ⟨first, letters, rfl⟩
  have hstart : (first :: letters ++ 58 :: ([47, 47] ++ rest)).dropWhile isSpace =
      first :: letters ++ 58 :: ([47, 47] ++ rest) := by
    rw [List.cons_append, List.dropWhile_cons_of_neg]
    simp [(scheme_char List.mem_cons_self hscheme).2]
  have hend : trimEnd (first :: letters ++ 58 :: ([47, 47] ++ rest)) =
      first :: letters ++ 58 :: ([47, 47] ++ trimEnd rest) := by
    have hslash : isSpace 47 = false := by decide
    have hregroup : ∀ tail : Bytes, first :: letters ++ 58 :: ([47, 47] ++ tail) =
        (first :: letters ++ [58, 47]) ++ 47 :: tail := by
      intro tail
      simp
    rw [hregroup, hregroup]
    exact trimEnd_append _ rest hslash
  have hcolon : 58 ∉ first :: letters := fun hmem => (scheme_char hmem hscheme).1 rfl
  rw [targetOf, hurl, trim, hstart, hend, htext, splitAtFirst_append [47, 47] _ hcolon]

/-! ## Whether the proxy is bypassed -/

/-- The host that `proxy_for_url` finds behind the scheme of a url. -/
def connectHost (rest : Bytes) : Option Bytes :=
  let authority := (trimEnd rest).takeWhile (· ≠ 47)
  (splitHostPort (((splitAtLast 64 authority).map Prod.snd).getD authority)).map Prod.fst

/-- Without a proxy the connection is direct, unless it cannot be made. -/
theorem throughProxy_direct_iff (value : Bytes) (creates : Option ProxyServer → Bool) :
    ThroughProxy value (openWith creates none) ↔ creates none = false := by
  unfold openWith
  cases hcreates : creates none with
  | true =>
      refine iff_of_false ?_ (by simp)
      rintro (h | ⟨proxy, -, -, h⟩) <;> simp at h
  | false => exact iff_of_true (Or.inl rfl) rfl

/-- A usable value leads through its proxy or to an error. -/
theorem throughProxy_of_parsed {value : Bytes} {proxy : ProxyConfig}
    (creates : Option ProxyServer → Bool) (hparse : parseProxyUrl value = some proxy) :
    ThroughProxy value
      (if proxy.scheme ≠ .http then .failed
        else if proxy.authenticated then .failed
        else openWith creates (some ⟨proxy.host, proxy.port⟩)) := by
  by_cases hscheme : proxy.scheme ≠ .http
  · rw [if_pos hscheme]
    exact Or.inl rfl
  · rw [if_neg hscheme]
    by_cases hauthenticated : proxy.authenticated = true
    · rw [if_pos hauthenticated]
      exact Or.inl rfl
    · rw [if_neg hauthenticated, openWith]
      by_cases hcreates : creates (some ⟨proxy.host, proxy.port⟩) = true
      · rw [if_pos hcreates]
        exact Or.inr ⟨proxy, hparse, not_not.mp hscheme, rfl⟩
      · rw [if_neg hcreates]
        exact Or.inl rfl

/-- The candidates do not depend on the case of the scheme. -/
theorem configuredProxy_toLower {scheme : Bytes}
    (hscheme : toLower scheme = text "ws" ∨ toLower scheme = text "wss") :
    configuredProxy env (toLower scheme) = configuredProxy env scheme := by
  have hagain : toLower (toLower scheme) = toLower scheme := by
    rcases hscheme with hscheme | hscheme <;> rw [hscheme] <;> decide
  rw [configuredProxy, configuredProxy, documentedOrder, documentedOrder, candidates,
    candidates, hagain]

/-- A configured proxy is bypassed exactly if its value is malformed, or the host of the
url is malformed or read as one that `NO_PROXY` matches, and the direct connection can
be made. -/
theorem never_bypassed_iff (creates : Option ProxyServer → Bool)
    {url scheme rest value : Bytes} (h : ProxyConfigured env url scheme rest value) :
    ThroughProxy value (connect env creates url) ↔
      creates none = false ∨
        (∃ host, connectHost rest = some host ∧ bypasses env host = false) ∧
          (parseProxyUrl value).isSome = true := by
  have htarget := targetOf_eq rest h.webSocket
  have hconfigured := configuredProxy_toLower env h.webSocket
  rw [connect, proxyForUrl, h.isUrl, htarget]
  dsimp only
  rw [connectHost]
  cases hhost : splitHostPort (((splitAtLast 64 ((trimEnd rest).takeWhile (· ≠ 47))).map
      Prod.snd).getD ((trimEnd rest).takeWhile (· ≠ 47))) with
  | none => simpa using throughProxy_direct_iff value creates
  | some parts =>
      simp only [Option.map_some, Option.some.injEq, exists_eq_left']
      rw [proxyFromEnvironment]
      cases hbypass : bypasses env parts.1 with
      | true => simpa using throughProxy_direct_iff value creates
      | false =>
          rw [if_neg (by simp), selectProxy_candidates, hconfigured, h.configured,
            Option.bind_some]
          cases hparse : parseProxyUrl value with
          | none => simpa using throughProxy_direct_iff value creates
          | some proxy =>
              exact iff_of_true (throughProxy_of_parsed creates hparse)
                (Or.inr ⟨rfl, rfl⟩)

end

/-- An environment with the given variables. -/
def environment (settings : List (String × String)) : Environment := fun name =>
  (settings.find? fun pair => text pair.1 = name).map fun pair => text pair.2

/-- A well-formed proxy is used. -/
theorem never_bypassed_plain :
    ThroughProxy (text "http://proxy.lan:3128")
      (connect (environment [("HTTPS_PROXY", "http://proxy.lan:3128")]) (fun _ => true)
        (text "wss://driscord.example/ws")) :=
  (@never_bypassed_iff (environment [("HTTPS_PROXY", "http://proxy.lan:3128")])
    (fun _ => true) (text "wss://driscord.example/ws") (text "wss")
    (text "driscord.example/ws") (text "http://proxy.lan:3128")
    ⟨by decide +kernel, by decide +kernel, by decide +kernel, by decide +kernel,
      by decide +kernel⟩).mpr
    (Or.inr ⟨⟨text "driscord.example", by decide +kernel, by decide +kernel⟩,
      by decide +kernel⟩)

/-- A proxy whose port is no number is bypassed. -/
theorem malformed_proxy_is_bypassed :
    ProxyConfigured (environment [("HTTPS_PROXY", "http://secure.lan:notaport")])
        (text "wss://driscord.tld/ws") (text "wss") (text "driscord.tld/ws")
        (text "http://secure.lan:notaport") ∧
      connect (environment [("HTTPS_PROXY", "http://secure.lan:notaport")]) (fun _ => true)
          (text "wss://driscord.tld/ws") = .opened none ∧
        ¬ ThroughProxy (text "http://secure.lan:notaport")
          (connect (environment [("HTTPS_PROXY", "http://secure.lan:notaport")])
            (fun _ => true) (text "wss://driscord.tld/ws")) := by
  have hdirect : connect (environment [("HTTPS_PROXY", "http://secure.lan:notaport")])
      (fun _ => true) (text "wss://driscord.tld/ws") = .opened none := by decide +kernel
  refine ⟨⟨by decide +kernel, by decide +kernel, by decide +kernel, by decide +kernel,
    by decide +kernel⟩, hdirect, ?_⟩
  rw [hdirect]
  rintro (h | ⟨proxy, -, -, h⟩) <;> simp at h

end Client
end Driscord
