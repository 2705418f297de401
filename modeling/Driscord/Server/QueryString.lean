import Driscord.Server.ChannelAccess

/-!
# Query strings

`url_decode` and `parse_query_param` once more as the loops that they are, with every
access checked: a character read or a `substr` behind the end gives no result.  The
client percent-encodes the values of the query string that it connects with.

Qt's encoder is a parameter.

Main results:

- Theorem `urlDecodeChecked_eq`: on every byte string the checked loop has a result.
- Theorem `parseQueryParamChecked_eq`: so has the search for a key.
- Theorem `query_round_trip`: the server reads the values that were encoded.
-/

namespace Driscord
namespace Server

open Signaling

/-! ## The loops -/

/-- `find`: the first place of a character. -/
def findByte (byte : UInt8) (bytes : Bytes) : Option Nat :=
  bytes.findIdx? (· = byte)

/-- `substr` from a position on, which may not be behind the end. -/
def substrFrom (bytes : Bytes) (position : Nat) : Option Bytes :=
  if position ≤ bytes.length then some (bytes.drop position) else none

/-- `url_decode` from a place on, with checked accesses. -/
def urlDecodeLoop (bytes : Bytes) (place : Nat) (out : Bytes) : Option Bytes :=
  if place < bytes.length then
    match bytes[place]? with
    | none => none
    | some byte =>
        if byte = 43 then urlDecodeLoop bytes (place + 1) (out ++ [32])
        else if byte = 37 ∧ place + 2 < bytes.length then
          match bytes[place + 1]?, bytes[place + 2]? with
          | some high, some low =>
              match hexValue high, hexValue low with
              | some high, some low =>
                  urlDecodeLoop bytes (place + 3) (out ++ [high <<< 4 ||| low])
              | _, _ => urlDecodeLoop bytes (place + 1) (out ++ [byte])
          | _, _ => none
        else urlDecodeLoop bytes (place + 1) (out ++ [byte])
  else some out
termination_by bytes.length - place

/-- `url_decode` with checked accesses. -/
def urlDecodeChecked (bytes : Bytes) : Option Bytes :=
  urlDecodeLoop bytes 0 []

/-- What a pair of the query string holds for a key, with checked accesses. -/
def pairValueChecked (pair key : Bytes) : Option (Option Bytes) :=
  match findByte 61 pair with
  | none => some none
  | some equals =>
      if pair.take equals = key then (substrFrom pair (equals + 1)).map some else some none

/-- The loop of `parse_query_param` with checked accesses. -/
def queryLoop (key query : Bytes) : Option Bytes :=
  if query = [] then some []
  else
    let pair := match findByte 38 query with
      | none => query
      | some ampersand => query.take ampersand
    match pairValueChecked pair key with
    | none => none
    | some (some value) => urlDecodeChecked value
    | some none =>
        match findByte 38 query with
        | none => some []
        | some ampersand =>
            -- `substr` throws behind the end.
            if ampersand + 1 ≤ query.length then queryLoop key (query.drop (ampersand + 1))
            else none
termination_by query.length

/-- `parse_query_param` with checked accesses. -/
def parseQueryParamChecked (target key : Bytes) : Option Bytes :=
  match findByte 63 target with
  | none => some []
  | some question => (substrFrom target (question + 1)).bind (queryLoop key)

/-! ## Searching -/

theorem findByte_eq_none_iff {byte : UInt8} {bytes : Bytes} :
    findByte byte bytes = none ↔ byte ∉ bytes := by
  rw [findByte, List.findIdx?_eq_none_iff]
  constructor
  · intro h hmem
    simpa using h byte hmem
  · intro h other hother
    rw [decide_eq_false_iff_not]
    intro hsame
    exact h (hsame ▸ hother)

theorem findByte_append {byte : UInt8} {before : Bytes} (h : byte ∉ before) (rest : Bytes) :
    findByte byte (before ++ byte :: rest) = some before.length := by
  have hbefore := findByte_eq_none_iff.mpr h
  unfold findByte at hbefore ⊢
  simp [List.findIdx?_append, hbefore, List.findIdx?_cons]

theorem drop_behind (before : Bytes) (byte : UInt8) (rest : Bytes) :
    (before ++ byte :: rest).drop (before.length + 1) = rest := by
  rw [List.append_cons, List.drop_left' (by simp)]

theorem substrFrom_append (before : Bytes) (byte : UInt8) (rest : Bytes) :
    substrFrom (before ++ byte :: rest) (before.length + 1) = some rest := by
  rw [substrFrom, if_pos (by simp), drop_behind]

/-! ## Decoding -/

/-- A byte that starts no escape is decoded alone. -/
theorem urlDecode_cons {byte : UInt8} {rest : Bytes} (h : byte ≠ 37 ∨ rest.length < 2) :
    urlDecode (byte :: rest) = (if byte = 43 then 32 else byte) :: urlDecode rest := by
  match rest with
  | [] => rfl
  | [next] => rfl
  | high :: low :: rest =>
      have hbyte : byte ≠ 37 := by
        rcases h with hne | hshort
        · exact hne
        · simp at hshort
      rw [urlDecode, if_neg hbyte]
      split <;> rfl

theorem urlDecode_escape {high low highValue lowValue : UInt8} (rest : Bytes)
    (hhigh : hexValue high = some highValue) (hlow : hexValue low = some lowValue) :
    urlDecode (37 :: high :: low :: rest) = (highValue <<< 4 ||| lowValue) :: urlDecode rest := by
  rw [urlDecode, if_neg (by decide), if_pos rfl, hhigh, hlow]

theorem urlDecode_malformed {high low : UInt8} (rest : Bytes)
    (h : hexValue high = none ∨ hexValue low = none) :
    urlDecode (37 :: high :: low :: rest) = 37 :: urlDecode (high :: low :: rest) := by
  rw [urlDecode, if_neg (by decide), if_pos rfl]
  rcases h with hhigh | hlow
  · rw [hhigh]
  · rw [hlow]
    cases hexValue high <;> rfl

theorem drop_of_getElem? {bytes : Bytes} {place : Nat} {byte : UInt8}
    (h : bytes[place]? = some byte) : bytes.drop place = byte :: bytes.drop (place + 1) := by
  rcases List.getElem?_eq_some_iff.mp h with ⟨hlt, rfl⟩
  exact List.drop_eq_getElem_cons hlt

/-- The loop decodes the rest, and never reads behind the end. -/
theorem urlDecodeLoop_eq (bytes : Bytes) (place : Nat) (out : Bytes) :
    urlDecodeLoop bytes place out = some (out ++ urlDecode (bytes.drop place)) := by
  fun_induction urlDecodeLoop bytes place out with
  | case1 place out hlt hnone =>
      rw [List.getElem?_eq_none_iff] at hnone
      omega
  | case2 place out hlt hbyte ih =>
      rw [ih, drop_of_getElem? hbyte, urlDecode_cons (Or.inl (by decide))]
      simp
  | case3 place out hlt byte hbyte hplus hescape high low hlow hhigh highValue lowValue hlowValue
      hhighValue ih =>
      obtain ⟨rfl, hlong⟩ := hescape
      rw [ih, drop_of_getElem? hbyte, drop_of_getElem? hhigh, drop_of_getElem? hlow,
        urlDecode_escape _ hhighValue hlowValue]
      simp
  | case4 place out hlt byte hbyte hplus hescape high low hlow hhigh hmalformed ih =>
      obtain ⟨rfl, hlong⟩ := hescape
      have hvalue : hexValue high = none ∨ hexValue low = none := by
        cases hhighValue : hexValue high with
        | none => exact Or.inl rfl
        | some highValue =>
            cases hlowValue : hexValue low with
            | none => exact Or.inr rfl
            | some lowValue => exact (hmalformed _ _ hhighValue hlowValue).elim
      rw [ih, drop_of_getElem? hbyte, drop_of_getElem? hhigh, drop_of_getElem? hlow,
        urlDecode_malformed _ hvalue]
      simp
  | case5 place out hlt byte hbyte hplus hescape hnone =>
      exact (hnone _ _ (List.getElem?_eq_getElem (by omega))
        (List.getElem?_eq_getElem hescape.2)).elim
  | case6 place out hlt byte hbyte hplus hescape ih =>
      have hshort : byte ≠ 37 ∨ (bytes.drop (place + 1)).length < 2 := by
        rw [List.length_drop]
        by_cases hpercent : byte = 37
        · have hend : ¬ place + 2 < bytes.length := fun hlong => hescape ⟨hpercent, hlong⟩
          exact Or.inr (by omega)
        · exact Or.inl hpercent
      rw [ih, drop_of_getElem? hbyte, urlDecode_cons hshort, if_neg hplus]
      simp
  | case7 place out hend =>
      rw [List.drop_of_length_le (by omega)]
      simp [urlDecode]

/-- On every byte string the checked loop ends with the decoded bytes. -/
theorem urlDecodeChecked_eq (bytes : Bytes) :
    urlDecodeChecked bytes = some (urlDecode bytes) := by
  simp [urlDecodeChecked, urlDecodeLoop_eq]

/-! ## Searching for a key -/

/-- The value of a pair that has the key. -/
def pairValue (pair key : Bytes) : Option Bytes :=
  if 61 ∈ pair ∧ pair.takeWhile (· ≠ 61) = key then some ((pair.dropWhile (· ≠ 61)).drop 1)
  else none

/-- The bytes before and behind the first place of a byte. -/
theorem takeWhile_ne_append {byte : UInt8} {before : Bytes} (h : byte ∉ before) (rest : Bytes) :
    (before ++ byte :: rest).takeWhile (· ≠ byte) = before ∧
      (before ++ byte :: rest).dropWhile (· ≠ byte) = byte :: rest := by
  have hbefore : ∀ other ∈ before, decide (other ≠ byte) = true := by
    intro other hother
    rw [decide_eq_true_eq]
    rintro rfl
    exact h hother
  constructor
  · rw [List.takeWhile_append_of_pos hbefore]
    simp
  · rw [List.dropWhile_append_of_pos hbefore]
    simp

theorem pairValueChecked_eq (pair key : Bytes) :
    pairValueChecked pair key = some (pairValue pair key) := by
  by_cases hmem : 61 ∈ pair
  · rcases List.eq_append_cons_of_mem hmem with ⟨name, value, rfl, hname⟩
    rcases takeWhile_ne_append hname value with ⟨htake, hdrop⟩
    rw [pairValueChecked, findByte_append hname, pairValue, htake, hdrop]
    simp only [List.take_left, hmem, true_and]
    split
    · rw [substrFrom_append]
      rfl
    · rfl
  · rw [pairValueChecked, findByte_eq_none_iff.mpr hmem, pairValue, if_neg (by simp [hmem])]

theorem queryLoop_nil (key : Bytes) : queryLoop key [] = some [] := by
  rw [queryLoop, if_pos rfl]

/-- The last pair of a query string. -/
theorem queryLoop_last {pair : Bytes} (hpair : 38 ∉ pair) (key : Bytes) :
    queryLoop key pair = some (((pairValue pair key).map urlDecode).getD []) := by
  by_cases hnil : pair = []
  · rw [hnil, queryLoop_nil]
    rfl
  · rw [queryLoop, if_neg hnil, findByte_eq_none_iff.mpr hpair]
    simp only [pairValueChecked_eq, urlDecodeChecked_eq]
    cases pairValue pair key <;> rfl

/-- A pair that is followed by another one. -/
theorem queryLoop_append {pair : Bytes} (hpair : 38 ∉ pair) (rest key : Bytes) :
    queryLoop key (pair ++ 38 :: rest) =
      match pairValue pair key with
      | some value => some (urlDecode value)
      | none => queryLoop key rest := by
  rw [queryLoop, if_neg (by simp), findByte_append hpair]
  simp only [List.take_left, pairValueChecked_eq, urlDecodeChecked_eq]
  cases pairValue pair key with
  | some value => rfl
  | none =>
      rw [if_pos (by simp), drop_behind]

/-- The value of the first pair that has the key. -/
def firstValue (key : Bytes) (pairs : List Bytes) : Bytes :=
  ((pairs.find? fun pair => (pairValue pair key).isSome).bind fun pair =>
    (pairValue pair key).map urlDecode).getD []

theorem firstValue_cons (key pair : Bytes) (pairs : List Bytes) :
    firstValue key (pair :: pairs) =
      match pairValue pair key with
      | some value => urlDecode value
      | none => firstValue key pairs := by
  cases hvalue : pairValue pair key <;> simp [firstValue, hvalue]

/-- The loop looks at the pairs in order. -/
theorem queryLoop_eq (key query : Bytes) :
    queryLoop key query = some (firstValue key (query.splitOn 38)) := by
  induction hlength : query.length using Nat.strong_induction_on generalizing query with
  | _ length ih =>
      by_cases hmem : 38 ∈ query
      · rcases List.eq_append_cons_of_mem hmem with ⟨pair, rest, rfl, hpair⟩
        have hshort : rest.length < length := by
          rw [List.length_append, List.length_cons] at hlength
          omega
        rw [queryLoop_append hpair, ih rest.length hshort rest rfl,
          List.splitOn_append_cons_self_of_not_mem hpair, firstValue_cons]
        cases pairValue pair key <;> rfl
      · rw [queryLoop_last hmem, List.splitOn_eq_singleton hmem, firstValue_cons]
        cases pairValue query key <;> rfl

/-- The search ends with a result on every target. -/
theorem parseQueryParamChecked_isSome (target key : Bytes) :
    (parseQueryParamChecked target key).isSome = true := by
  by_cases hmem : 63 ∈ target
  · rcases List.eq_append_cons_of_mem hmem with ⟨path, query, rfl, hpath⟩
    rw [parseQueryParamChecked, findByte_append hpath]
    simp [substrFrom_append, queryLoop_eq]
  · rw [parseQueryParamChecked, findByte_eq_none_iff.mpr hmem]
    rfl

/-- The checked search finds what `parseQueryParam` finds. -/
theorem parseQueryParamChecked_eq (target : Bytes) (key : String) :
    parseQueryParamChecked target (text key) = some (parseQueryParam target key) := by
  have hfind : ∀ pairs : List Bytes, firstValue (text key) pairs =
      match pairs.find? fun pair => 61 ∈ pair ∧ pair.takeWhile (· ≠ 61) = text key with
      | some pair => urlDecode ((pair.dropWhile (· ≠ 61)).drop 1)
      | none => [] := by
    intro pairs
    induction pairs with
    | nil => rfl
    | cons pair pairs ih =>
        rw [firstValue_cons, List.find?_cons]
        by_cases hpair : 61 ∈ pair ∧ pair.takeWhile (· ≠ 61) = text key
        · rw [pairValue, if_pos hpair, decide_eq_true hpair]
        · rw [pairValue, if_neg hpair, decide_eq_false hpair]
          exact ih
  by_cases hmem : 63 ∈ target
  · rcases List.eq_append_cons_of_mem hmem with ⟨path, query, rfl, hpath⟩
    rw [parseQueryParamChecked, findByte_append hpath, parseQueryParam,
      (takeWhile_ne_append hpath query).2]
    simp only [substrFrom_append, Option.bind_some, queryLoop_eq, hfind, List.drop_one,
      List.tail_cons]
    rfl
  · have hnone : target.dropWhile (· ≠ 63) = [] := by
      rw [List.dropWhile_eq_nil_iff]
      intro byte hbyte
      rw [decide_eq_true_eq]
      rintro rfl
      exact hmem hbyte
    rw [parseQueryParamChecked, findByte_eq_none_iff.mpr hmem, parseQueryParam, hnone]
    rfl

/-! ## Encoding -/

/-- What a percent-encoder may make of a byte string: unreserved bytes may stay as they
are, and every byte may be escaped. -/
inductive PercentEncoded : Bytes → Bytes → Prop where
  | nil : PercentEncoded [] []
  | keep {value encoded : Bytes} (h : PercentEncoded value encoded) (byte : UInt8)
      (hkept : isUnreserved byte = true) : PercentEncoded (byte :: value) (byte :: encoded)
  | escape {value encoded : Bytes} (h : PercentEncoded value encoded)
      {high low highValue lowValue : UInt8} (hhigh : hexValue high = some highValue)
      (hlow : hexValue low = some lowValue) :
      PercentEncoded ((highValue <<< 4 ||| lowValue) :: value) (37 :: high :: low :: encoded)

/-- A byte that stays as it is differs from every byte that has to be escaped. -/
theorem ne_of_isUnreserved {byte other : UInt8} (hkept : isUnreserved byte = true)
    (hother : isUnreserved other = false) : byte ≠ other := by
  intro hsame
  rw [hsame, hother] at hkept
  contradiction

theorem percentEncoded_urlEscape (value : Bytes) : PercentEncoded value (urlEscape value) := by
  induction value with
  | nil => exact PercentEncoded.nil
  | cons byte value ih =>
      rw [urlEscape, List.flatMap_cons]
      by_cases hkept : isUnreserved byte = true
      · rw [if_pos hkept]
        exact ih.keep byte hkept
      · rcases hexValue_upperHexDigit byte with ⟨hhigh, hlow, hbyte⟩
        have hescape := ih.escape hhigh hlow
        rw [hbyte] at hescape
        rw [if_neg hkept]
        exact hescape

/-- What was encoded is decoded. -/
theorem urlDecode_of_percentEncoded {value encoded : Bytes} (h : PercentEncoded value encoded) :
    urlDecode encoded = value := by
  induction h with
  | nil => rfl
  | keep h byte hkept ih =>
      have hpercent : byte ≠ 37 := ne_of_isUnreserved hkept rfl
      have hplus : byte ≠ 43 := ne_of_isUnreserved hkept rfl
      rw [urlDecode_cons (Or.inl hpercent), if_neg hplus, ih]
  | escape h hhigh hlow ih => rw [urlDecode_escape _ hhigh hlow, ih]

/-- An encoded byte string holds no separator. -/
theorem separator_free {value encoded : Bytes} (h : PercentEncoded value encoded) :
    38 ∉ encoded := by
  have hdigit : ∀ {digit digitValue : UInt8}, hexValue digit = some digitValue → digit ≠ 38 := by
    rintro digit digitValue hvalue rfl
    rw [show hexValue 38 = none from rfl] at hvalue
    contradiction
  induction h with
  | nil => exact List.not_mem_nil
  | keep h byte hkept ih =>
      have hbyte : byte ≠ 38 := ne_of_isUnreserved hkept rfl
      exact List.not_mem_cons_of_ne_of_not_mem hbyte.symm ih
  | escape h hhigh hlow ih =>
      refine List.not_mem_cons_of_ne_of_not_mem (by decide) ?_
      refine List.not_mem_cons_of_ne_of_not_mem (hdigit hhigh).symm ?_
      exact List.not_mem_cons_of_ne_of_not_mem (hdigit hlow).symm ih

/-! ## The round trip -/

/-- A key with its encoded value. -/
def encodedPair (encode : Bytes → Bytes) (pair : Bytes × Bytes) : Bytes :=
  pair.1 ++ 61 :: encode pair.2

/-- A target with a query string. -/
def queryTarget (encode : Bytes → Bytes) (path : Bytes) (pairs : List (Bytes × Bytes)) : Bytes :=
  path ++ 63 :: [38].intercalate (pairs.map (encodedPair encode))

section

variable {encode : Bytes → Bytes} (hencode : ∀ value, PercentEncoded value (encode value))
include hencode

/-- The first pair with the key is found. -/
theorem firstValue_encoded {pairs : List (Bytes × Bytes)}
    (hkeys : ∀ pair ∈ pairs, 38 ∉ pair.1 ∧ 61 ∉ pair.1) (key : Bytes) :
    firstValue key (pairs.map (encodedPair encode)) = (pairs.lookup key).getD [] := by
  induction pairs with
  | nil => rfl
  | cons pair pairs ih =>
      have hname := (hkeys pair List.mem_cons_self).2
      have hrest := ih fun other hother => hkeys other (List.mem_cons_of_mem _ hother)
      rcases takeWhile_ne_append hname (encode pair.2) with ⟨htake, hdrop⟩
      have hvalue : pairValue (encodedPair encode pair) key =
          if pair.1 = key then some (encode pair.2) else none := by
        rw [pairValue, encodedPair, htake, hdrop]
        simp
      rw [List.map_cons, firstValue_cons, hvalue, List.lookup_cons]
      by_cases hkey : pair.1 = key
      · simp [hkey, urlDecode_of_percentEncoded (hencode pair.2)]
      · have hne : (key == pair.1) = false := by simpa using Ne.symm hkey
        rw [if_neg hkey, hne]
        exact hrest

theorem parseQueryParamChecked_queryTarget {path : Bytes} (hpath : 63 ∉ path)
    {pairs : List (Bytes × Bytes)} (hkeys : ∀ pair ∈ pairs, 38 ∉ pair.1 ∧ 61 ∉ pair.1)
    (key : Bytes) :
    parseQueryParamChecked (queryTarget encode path pairs) key =
      some ((pairs.lookup key).getD []) := by
  rw [parseQueryParamChecked, queryTarget, findByte_append hpath]
  simp only [substrFrom_append, Option.bind_some, queryLoop_eq]
  rcases List.eq_nil_or_concat pairs with rfl | hsome
  · rfl
  · have hsplit : ([38].intercalate (pairs.map (encodedPair encode))).splitOn 38 =
        pairs.map (encodedPair encode) := by
      apply List.splitOn_intercalate
      · intro encoded hencoded
        rcases List.mem_map.mp hencoded with ⟨pair, hpair, rfl⟩
        simp [encodedPair, (hkeys pair hpair).1, separator_free (hencode pair.2)]
      · rcases hsome with ⟨before, last, rfl⟩
        simp
    rw [hsplit, firstValue_encoded hencode hkeys]

/-- The server reads the value of the first pair with the key, and both loops end on
every input. -/
theorem query_round_trip {path : Bytes} (hpath : 63 ∉ path) {pairs : List (Bytes × Bytes)}
    (hkeys : ∀ pair ∈ pairs, 38 ∉ pair.1 ∧ 61 ∉ pair.1) (key value target : Bytes) :
    parseQueryParamChecked (queryTarget encode path pairs) key =
        some ((pairs.lookup key).getD []) ∧
      urlDecodeChecked (urlEscape value) = some value ∧
      (urlDecodeChecked value).isSome = true ∧
      (parseQueryParamChecked target key).isSome = true := by
  refine ⟨parseQueryParamChecked_queryTarget hencode hpath hkeys key, ?_, ?_,
    parseQueryParamChecked_isSome target key⟩
  · rw [urlDecodeChecked_eq, urlDecode_of_percentEncoded (percentEncoded_urlEscape value)]
  · rw [urlDecodeChecked_eq]
    rfl

end

/-- A user name with a separator, and a token that ends in a percent sign. -/
theorem query_round_trip_connect :
    parseQueryParamChecked (queryTarget urlEscape (text "/channels/42")
        [([117], text "a&t=b"), ([116], [43, 37])]) [116] =
        some ((List.lookup [116] [([117], text "a&t=b"), ([116], [43, 37])]).getD []) ∧
      urlDecodeChecked (urlEscape [37, 50]) = some [37, 50] ∧
      (urlDecodeChecked [37, 50]).isSome = true ∧
      (parseQueryParamChecked [63, 37] [116]).isSome = true :=
  query_round_trip percentEncoded_urlEscape (by decide) (by simp) [116] [37, 50] [63, 37]

/-! ## The url of a client -/

/-- The url that `DriscordBridge::connect` makes. -/
def connectUrl (encode : Bytes → Bytes) (serverUrl username accessToken : Bytes) : Bytes :=
  let named := serverUrl ++ [if 63 ∈ serverUrl then 38 else 63] ++ text "u=" ++ encode username
  if accessToken = [] then named else named ++ text "&t=" ++ encode accessToken

theorem connectUrl_eq (encode : Bytes → Bytes) {serverUrl : Bytes} (hurl : 63 ∉ serverUrl)
    (username accessToken : Bytes) :
    connectUrl encode serverUrl username accessToken =
      queryTarget encode serverUrl ((text "u", username) ::
        if accessToken = [] then [] else [(text "t", accessToken)]) := by
  have hname : text "u=" = text "u" ++ [61] := by decide
  have htoken : text "&t=" = 38 :: (text "t" ++ [61]) := by decide
  unfold connectUrl queryTarget
  rw [if_neg hurl, hname, htoken]
  by_cases hnone : accessToken = []
  · simp [hnone, encodedPair, List.intercalate]
  · simp [hnone, encodedPair, List.intercalate]

/-- The server reads the user name and the token of the client; no token is an empty one. -/
theorem connect_identity {encode : Bytes → Bytes}
    (hencode : ∀ value, PercentEncoded value (encode value)) {serverUrl : Bytes}
    (hurl : 63 ∉ serverUrl) (username accessToken : Bytes) :
    parseQueryParam (connectUrl encode serverUrl username accessToken) "u" = username ∧
      parseQueryParam (connectUrl encode serverUrl username accessToken) "t" = accessToken := by
  have hread : ∀ key : String, some (parseQueryParam
      (connectUrl encode serverUrl username accessToken) key) =
      some ((((text "u", username) ::
        if accessToken = [] then [] else [(text "t", accessToken)]).lookup (text key)).getD
          []) := by
    intro key
    rw [← parseQueryParamChecked_eq, connectUrl_eq encode hurl]
    apply parseQueryParamChecked_queryTarget hencode hurl
    have hkeys : (38 ∉ text "u" ∧ 61 ∉ text "u") ∧ 38 ∉ text "t" ∧ 61 ∉ text "t" := by decide
    intro pair hpair
    rcases List.mem_cons.mp hpair with rfl | hpair
    · exact hkeys.1
    · by_cases hnone : accessToken = []
      · simp [hnone] at hpair
      · rw [if_neg hnone, List.mem_singleton] at hpair
        rw [hpair]
        exact hkeys.2
  have hother : (text "t" == text "u") = false := by decide
  constructor
  · have hu := hread "u"
    simpa using hu
  · have ht := hread "t"
    by_cases hnone : accessToken = []
    · simpa [hnone, List.lookup_cons, hother] using ht
    · simpa [hnone, List.lookup_cons, hother] using ht

end Server
end Driscord
