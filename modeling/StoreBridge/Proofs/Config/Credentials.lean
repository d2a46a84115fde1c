import StoreBridge.Config.Address
import StoreBridge.Proofs.Checked
import StoreBridge.Proofs.Number.Digits
import StoreBridge.Proofs.Url.Authority

/-!
# The credentials of a connection string for Oracle

A user and a password that stand in a URL have to be percent-encoded, and a URL is taken apart
without being decoded. So the driver is handed what the URL holds, encoded as it is, and this is the
user and the password themselves only if their encodings are (`credentials_stay_encoded`).
Everything else comes through: the reading never fails, and host, port and service are those of the
URL.

That the encoding stays is no matter of how a connection string is written: a character that a URL
has to encode is in no name and no password that is read from any text (`Url.parse_keepsUserinfo`).
-/

namespace StoreBridge

/-! ### What every reading yields -/

namespace Url

/-- The name and the password consist of characters that stand for themselves in them. -/
structure KeepsUserinfo (a : Authority) : Prop where
  username : ∀ c ∈ a.username, keepsUserinfo c = true
  password : ∀ cs, a.password = some cs → ∀ c ∈ cs, keepsUserinfo c = true

/-- The characters of an escape stand for themselves. -/
theorem keepsUserinfo_escape : ∀ c ∈ "%0123456789ABCDEF".toList, keepsUserinfo c = true :=
  List.all_iff_forall_prop.mp (by decide)

/-- An encoded text consists of characters that stand for themselves, the percent sign being one. -/
theorem keepsUserinfo_of_mem_percentEncode {c : Char} {cs : List Char}
    (h : c ∈ percentEncode keepsUserinfo cs) : keepsUserinfo c = true := by
  rcases of_mem_percentEncode h with ⟨-, hkept⟩ | hdigit
  · exact hkept
  · exact keepsUserinfo_escape c hdigit

/-- An authority without a user has nothing that needs encoding. -/
theorem keepsUserinfo_nobody (host : List Char) (port : Option Nat) :
    KeepsUserinfo ⟨[], none, host, port⟩ where
  username := List.forall_mem_nil _
  password _ h := absurd h nofun

/-- Whatever the user and the password were, they are encoded once they have been read. -/
theorem keepsUserinfo_parseUserinfo (cs host : List Char) (port : Option Nat) :
    KeepsUserinfo ⟨(parseUserinfo cs).1, (parseUserinfo cs).2, host, port⟩ := by
  unfold parseUserinfo
  split
  · refine ⟨fun c hc => keepsUserinfo_of_mem_percentEncode hc, ?_⟩
    rintro _ ⟨⟩ c hc
    exact keepsUserinfo_of_mem_percentEncode hc
  · exact ⟨fun c hc => keepsUserinfo_of_mem_percentEncode hc,
      fun cs h => absurd h.symm (Option.some_ne_none cs)⟩

/-- What the reader of authorities gives is encoded: nobody, or the user and the password that
`parseUserinfo` has encoded. -/
theorem keepsUserinfo_of_parseAuthority {default : Option Nat} {cs rest : List Char} {a : Authority}
    (h : parseAuthority default cs = .ok (a, rest)) : KeepsUserinfo a := by
  unfold parseAuthority at h
  dsimp only at h
  -- Without an at sign there is nobody.
  split at h
  · simp only [bind_eq_ok, pure_eq_ok] at h
    obtain ⟨⟨⟨host, port⟩, behind⟩, -, hfound⟩ := h
    rw [← (Prod.mk.inj hfound).1]
    exact keepsUserinfo_nobody host port
  · split at h
    · exact absurd h nofun
    · simp only [bind_eq_ok] at h
      obtain ⟨⟨⟨host, port⟩, behind⟩, -, hfound⟩ := h
      split at hfound
      · exact absurd hfound nofun
      · rw [← (Prod.mk.inj (pure_eq_ok.mp hfound)).1]
        exact keepsUserinfo_parseUserinfo _ host port

/-- **Whatever is read as a URL**, its user has no character that a URL encodes. -/
theorem parse_keepsUserinfo {text : String} {url : Url} {a : Authority} (h : parse text = .ok url)
    (ha : url.authority = some a) : KeepsUserinfo a := by
  unfold parse at h
  split at h
  · exact absurd h nofun
  · -- There are three ways to an authority: that of a file, that of a special scheme, and two
    -- slashes.
    dsimp only at h
    split at h
    · simp only [bind_eq_ok, pure_eq_ok] at h
      obtain ⟨⟨host, path⟩, -, rfl⟩ := h
      rw [← Option.some.inj ha]
      exact keepsUserinfo_nobody _ none
    · split at h
      · simp only [bind_eq_ok, pure_eq_ok] at h
        obtain ⟨⟨authority, rest⟩, hauthority, rfl⟩ := h
        rw [← Option.some.inj ha]
        exact keepsUserinfo_of_parseAuthority hauthority
      · split at h
        · simp only [bind_eq_ok, pure_eq_ok] at h
          obtain ⟨⟨authority, rest⟩, hauthority, rfl⟩ := h
          rw [← Option.some.inj ha]
          exact keepsUserinfo_of_parseAuthority hauthority
        · obtain rfl := pure_eq_ok.mp h
          exact absurd ha nofun

end Url

/-! ### Plain addresses -/

namespace OracleCredentials

/-- A port as it stands behind a host. -/
def portText : Option Nat → List Char
  | none => []
  | some n => ':' :: natDigits n

/-- A service as it stands behind a host and a port. -/
def serviceText (service : List Char) : List Char :=
  if service = [] then [] else '/' :: service

/-- Host, port and service as they stand behind a user. -/
def addressText (host : List Char) (port : Option Nat) (service : List Char) : List Char :=
  host ++ portText port ++ serviceText service

/-- What a path leaves of a service: one or two points are steps in a path, and no service. -/
def keptService (service : List Char) : List Char :=
  if UrlPath.isTwoDots service || UrlPath.isDot service then [] else service

section Plain

variable {host service : List Char} {port : Option Nat}
  (hhost : ∀ c ∈ host, isUnreserved c = true) (hne : host ≠ [])
  (hport : ∀ n ∈ port, n ≤ 65535) (hservice : ∀ c ∈ service, isUnreserved c = true)

/-- A sign that needs encoding is none of the characters that do not. -/
theorem ne_of_isUnreserved {c d : Char} (h : isUnreserved c = true) (hd : isUnreserved d = false) :
    c ≠ d := by
  rintro rfl
  rw [hd] at h
  exact absurd h (by decide)

theorem isUnreserved_of_isDigit {c : Char} (h : isDigit c = true) : isUnreserved c = true := by
  have hall : ∀ d : Char, d.toNat < 0x80 → isDigit d = true → isUnreserved d = true :=
    forall_char_lt (by decide)
  have hrange := toNat_of_isDigit h
  exact hall c (by omega) h

include hhost in
/-- A host of unreserved characters is kept as it is. -/
theorem hostOf_plain : Url.hostOf false host = .ok host := by
  have hbracket : host.head? ≠ some '[' := by
    intro hhead
    exact ne_of_isUnreserved (hhost _ (List.mem_of_head? hhead)) (by decide) rfl
  -- None of its characters is forbidden in a host, and none is encoded there.
  have hforbidden : host.any Host.isForbidden = false := by
    rw [List.any_eq_false]
    intro c hc
    rw [(standsForItself_of_isUnreserved (hhost c hc)).allowed]
    decide
  have hkept : percentEncode Host.isPlain host = host := percentEncode_of_kept fun c hc =>
    ⟨isUnreserved_ascii (hhost c hc), (standsForItself_of_isUnreserved (hhost c hc)).host⟩
  show Host.parseOpaque host = _
  rw [Host.parseOpaque, if_neg hbracket, hforbidden, hkept]
  exact if_neg Bool.false_ne_true

include hhost hne hport in
/-- A plain host and a port of 16 bits are read back, and nothing is left. -/
theorem parseHostPort_plain :
    Url.parseHostPort none (host ++ portText port) = .ok ((host, port), []) := by
  have hsplit : ∀ c ∈ host, c ≠ ':' ∧ c ≠ '[' := fun c hc =>
    ⟨ne_of_isUnreserved (hhost c hc) (by decide), ne_of_isUnreserved (hhost c hc) (by decide)⟩
  cases port with
  | none =>
    rw [portText, List.append_nil, Url.parseHostPort_host hsplit hne]
    show Except.map _ (Url.hostOf false host) = _
    rw [hostOf_plain hhost]
    rfl
  | some n =>
    -- The port is read as far as there are digits, which is to the end.
    have hdigits : ∀ c ∈ natDigits n, isDigit c = true := fun c => isDigit_of_mem_natDigits
    have htake := takeWhile_append_of_stopsAt hdigits (stopsAt_nil _)
    have hdrop := dropWhile_append_of_stopsAt hdigits (stopsAt_nil _)
    rw [List.append_nil] at htake hdrop
    have hreads : Url.readsAsPort (natDigits n) = true := by
      rw [Url.readsAsPort, htake, hdrop, natOfDigits_natDigits, decide_eq_true (hport n rfl)]
      rfl
    rw [portText, Url.parseHostPort_port hsplit hne, Url.parsePort_eq, if_pos hreads, htake, hdrop,
      if_neg (natDigits_ne_nil n), natOfDigits_natDigits]
    show Except.bind (Url.hostOf false host) _ = _
    rw [hostOf_plain hhost]
    show (if host = [] then _ else _) = _
    rw [if_neg hne]
    rfl

/-- If there is a service, a slash in front of it ends the authority. -/
theorem stopsAt_serviceText (special : Bool) (service : List Char) :
    StopsAt (!Url.endsAuthority special ·) (serviceText service) := by
  unfold serviceText
  split
  · exact stopsAt_nil _
  · exact stopsAt_cons (by cases special <;> rfl)

include hhost hne hport in
/-- **A plain address** is read as its host and its port, and the service is left. -/
theorem hostBehind_plain (service : List Char) :
    Url.hostBehind none (addressText host port service)
      = .ok ((host, port), serviceText service) := by
  -- The address lasts up to the slash of the service: nothing in it ends an authority.
  have hfront : ∀ c ∈ host ++ portText port, (!Url.endsAuthority false c) = true := by
    intro c hc
    rcases List.mem_append.mp hc with hc | hc
    · rw [Url.endsAuthority_of_keepsUserinfo
        (standsForItself_of_isUnreserved (hhost c hc)).userinfo]
      rfl
    · cases port with
      | none => exact absurd hc List.not_mem_nil
      | some n =>
        rcases List.mem_cons.mp hc with rfl | hc
        · rfl
        · have hdigit := isUnreserved_of_isDigit (isDigit_of_mem_natDigits hc)
          rw [Url.endsAuthority_of_keepsUserinfo (standsForItself_of_isUnreserved hdigit).userinfo]
          rfl
  have hstop := stopsAt_serviceText false service
  show Except.bind (Url.parseHostPort none (List.takeWhile (!Url.endsAuthority false ·) _)) _ = _
  rw [addressText, takeWhile_append_of_stopsAt hfront hstop, parseHostPort_plain hhost hne hport]
  show (if host = [] then _
    else Except.ok (_, [] ++ List.dropWhile (!Url.endsAuthority false ·) _)) = _
  rw [if_neg hne, dropWhile_append_of_stopsAt hfront hstop]
  rfl

include hservice in
/-- **The path of a plain service** is the service, unless that is a step in a path. -/
theorem dropWhile_parsePath :
    (Url.parsePath false (serviceText service)).dropWhile (· == '/') = keptService service := by
  have hslash : ∀ c ∈ service, c ≠ '/' := fun c hc =>
    ne_of_isUnreserved (hservice c hc) (by decide)
  have hencode : percentEncode UrlPath.keeps service = service := percentEncode_of_kept fun c hc =>
    ⟨isUnreserved_ascii (hservice c hc), (standsForItself_of_isUnreserved (hservice c hc)).path⟩
  by_cases hempty : service = []
  · subst hempty
    rfl
  · -- A path of one segment, unless that is a dot or two, which stand for a step.
    have hsegments : UrlPath.segments false service =
        if UrlPath.isTwoDots service || UrlPath.isDot service then [[]] else [service] := by
      show UrlPath.resolve [] ((splitOnChar '/' service).map (percentEncode UrlPath.keeps)) = _
      rw [splitOnChar_of_not_mem fun hmem => hslash _ hmem rfl, List.map_singleton, hencode,
        UrlPath.resolve]
      cases UrlPath.isTwoDots service with
      | true => rfl
      | false => cases UrlPath.isDot service <;> rfl
    have hstop : StopsAt (· == '/') service := by
      intro c hc
      exact beq_eq_false_iff_ne.mpr (hslash c (List.mem_of_head? hc))
    rw [serviceText, if_neg hempty]
    show (UrlPath.text (UrlPath.segments false service)).dropWhile (· == '/') = _
    rw [hsegments, keptService]
    split
    · rfl
    · show (['/'] ++ (service ++ [])).dropWhile (· == '/') = service
      have hslash : ∀ c ∈ ['/'], (c == '/') = true := List.all_iff_forall_prop.mp (by decide)
      rw [List.append_nil, dropWhile_append_of_stopsAt hslash hstop]

end Plain

/-! ### Encoded users -/

/-- A percent-encoding of a text for the user of a URL: it consists of characters that stand for
themselves there, and decoding it gives the text. -/
structure Encodes (encoded : List Char) (text : String) : Prop where
  kept : ∀ c ∈ encoded, Url.keepsUserinfo c = true
  decodes : percentDecode encoded = Bytes.ofText text

/-- Every text has an encoding, which keeps the unreserved characters only. -/
theorem encodes_percentEncode (text : String) :
    Encodes (percentEncode isUnreserved text.toList) text where
  kept c hc := by
    rcases of_mem_percentEncode hc with ⟨-, hkept⟩ | hdigit
    · exact (standsForItself_of_isUnreserved hkept).userinfo
    · exact Url.keepsUserinfo_escape c hdigit
  decodes := by
    rw [percentDecode_percentEncode (by decide), String.ofList_toList]

variable {encoded : List Char} {text : String}

/-- Decoding an encoded text gives the text. -/
theorem Encodes.toText? (h : Encodes encoded text) :
    Bytes.toText? (percentDecode encoded) = some text :=
  Bytes.toText?_eq_some_iff.mpr h.decodes.symm

/-- A text that is not empty is not encoded as nothing. -/
theorem Encodes.ne_nil (h : Encodes encoded text) (hne : text ≠ "") : encoded ≠ [] := by
  rintro rfl
  have hempty : Bytes.toText? (percentDecode []) = some "" :=
    Bytes.toText?_eq_some_iff.mpr (by rw [percentDecode]; exact Bytes.ofText_ofList [])
  exact hne (Option.some.inj (h.toText?.symm.trans hempty))

/-- The connection string of an encoded user and password at an address. -/
def connectionString (user password host : List Char) (port : Option Nat) (service : List Char) :
    String :=
  String.ofList
    (connectionText "oracle".toList (user ++ ':' :: password) (addressText host port service))

section Parse

variable {user password host service : List Char} {port : Option Nat}
  (huser : ∀ c ∈ user, Url.keepsUserinfo c = true) (huser_ne : user ≠ [])
  (hpassword : ∀ c ∈ password, Url.keepsUserinfo c = true)
  (hhost : ∀ c ∈ host, isUnreserved c = true) (hhost_ne : host ≠ [])
  (hport : ∀ n ∈ port, n ≤ 65535) (hservice : ∀ c ∈ service, isUnreserved c = true)

include hhost hservice in
/-- Every character of a plain address but its colon and its slash is unreserved. -/
theorem of_mem_addressText {c : Char} (h : c ∈ addressText host port service) :
    isUnreserved c = true ∨ c ∈ ":/".toList := by
  simp only [addressText, List.mem_append] at h
  -- In the host, in the port with its colon, or in the service with its slash.
  rcases h with (h | h) | h
  · exact .inl (hhost c h)
  · cases port with
    | none => exact absurd h List.not_mem_nil
    | some n =>
      rcases List.mem_cons.mp h with rfl | h
      · exact .inr (by decide)
      · exact .inl (isUnreserved_of_isDigit (isDigit_of_mem_natDigits h))
  · unfold serviceText at h
    split at h
    · exact absurd h List.not_mem_nil
    · rcases List.mem_cons.mp h with rfl | h
      · exact .inr (by decide)
      · exact .inl (hservice c h)

include hservice in
/-- A plain service is a path, with no query and no fragment behind it. -/
theorem assembled_serviceText (a : Authority) :
    Url.assembled "oracle".toList a (serviceText service) =
    ⟨"oracle".toList, some a, Url.parsePath false (serviceText service), none, none⟩ := by
  -- No question mark and no hash, so the path lasts to the end.
  have hsigns : ∀ c ∈ serviceText service, (c != '?' && c != '#') = true := by
    intro c hc
    unfold serviceText at hc
    split at hc
    · exact absurd hc List.not_mem_nil
    · rcases List.mem_cons.mp hc with rfl | hc
      · decide
      · have hplain := hservice c hc
        simp [ne_of_isUnreserved hplain (d := '?') (by decide),
          ne_of_isUnreserved hplain (d := '#') (by decide)]
  have htail : Url.splitTail false (serviceText service) = (serviceText service, none, none) := by
    have htake := takeWhile_append_of_stopsAt hsigns (stopsAt_nil _)
    have hdrop := dropWhile_append_of_stopsAt hsigns (stopsAt_nil _)
    rw [List.append_nil] at htake hdrop
    rw [Url.splitTail, htake, hdrop]
  have hspecial : (Url.defaultPort? "oracle".toList).isSome = false := by decide
  simp only [Url.assembled, hspecial, htail]

include huser huser_ne hpassword hhost hhost_ne hport hservice

/-- **A connection string is taken apart** into its user, its password and its address. -/
theorem parse_connectionString_url :
    Url.parse (connectionString user password host port service)
      = .ok (Url.assembled "oracle".toList
          ⟨user, if password = [] then none else some password, host, port⟩
          (serviceText service)) := by
  have hscheme : Url.IsScheme "oracle".toList := ⟨rfl, List.all_iff_forall_prop.mp (by decide)⟩
  -- The address has no at sign, so the one behind the password is the last.
  have haddress : ∀ c ∈ addressText host port service, 0x20 < c.toNat ∧ c ≠ '@' := by
    intro c hc
    rcases of_mem_addressText hhost hservice hc with hc | hc
    · exact ⟨Url.keepsUserinfo_visible (standsForItself_of_isUnreserved hc).userinfo,
        ne_of_isUnreserved hc (by decide)⟩
    · have hall : ∀ d ∈ ":/".toList, 0x20 < d.toNat ∧ d ≠ '@' :=
        List.all_iff_forall_prop.mp (by decide)
      exact hall c hc
  have hclean := Url.cleanEnd_append (fun c hc => (haddress c hc).1) []
  rw [List.append_nil, show Url.cleanEnd [] = [] from rfl, List.append_nil] at hclean
  have hvisible := Url.visible_userinfo huser fun c hc => Url.keepsUserinfo_visible (hpassword c hc)
  have hinfo := Url.endsAuthority_userinfo huser fun c hc =>
    Url.endsAuthority_of_keepsUserinfo (hpassword c hc) (none : Option Nat).isSome
  -- The user is not empty, so no third slash stands behind the two of the scheme.
  have hslash : StopsAt Url.isSlash
      (user ++ ':' :: password ++ '@' :: Url.cleanEnd (addressText host port service)) := by
    rw [List.append_assoc]
    exact Url.stopsAt_isSlash_append huser huser_ne _
  have hparsed := Url.parse_of_userinfo hscheme (by decide) (by simp) hvisible hinfo hslash
    (fun hmem => (haddress _ hmem).2 rfl) huser_ne (Url.parseUserinfo_password huser password)
  have hdefault : Url.defaultPort? ("oracle".toList.map asciiLower) = none := by decide
  rw [hdefault, hclean, hostBehind_plain hhost hhost_ne hport service,
    Url.percentEncode_keepsUserinfo hpassword] at hparsed
  exact hparsed

/-- **The credentials** are those of the connection string, encoded as they are there. -/
theorem parse_connectionString :
    OracleCredentials.parse (connectionString user password host port service) = .ok
      { username := String.ofList user
        password := String.ofList password
        connectString := String.ofList (connectText host port (keptService service)) } := by
  have hpath := dropWhile_parsePath hservice
  rw [OracleCredentials.parse,
    parse_connectionString_url huser huser_ne hpassword hhost hhost_ne hport hservice]
  have hassembled := assembled_serviceText hservice
  -- The host that is read is not empty, so it is not taken for a missing one.
  have hfound : ∀ a : Authority, a.host = host →
      (Url.assembled "oracle".toList a (serviceText service)).host? = some host := by
    rintro a rfl
    rw [hassembled]
    exact if_neg hhost_ne
  dsimp only
  rw [hfound _ rfl, hassembled]
  show (if user = [] then _ else _) = _
  rw [if_neg huser_ne]
  -- An empty password is read as none, and none is handed on as an empty one.
  have hgetD : (if password = [] then none else some password).getD [] = password := by
    by_cases hempty : password = []
    · rw [if_pos hempty, hempty]
      rfl
    · rw [if_neg hempty]
      rfl
  show Except.ok (OracleCredentials.mk (String.ofList user)
    (String.ofList ((if password = [] then none else some password).getD []))
    (String.ofList (connectText host port
      ((Url.parsePath false (serviceText service)).dropWhile (· == '/'))))) = _
  rw [hgetD, hpath]

end Parse

/-- **Whatever the connection string is**, the user and the password that are read from it have no
character that a URL encodes. -/
theorem keepsUserinfo_of_parse {text : String} {found : OracleCredentials}
    (h : OracleCredentials.parse text = .ok found) :
    ∀ c ∈ found.username.toList ++ found.password.toList, Url.keepsUserinfo c = true := by
  unfold OracleCredentials.parse at h
  split at h
  · exact absurd h nofun
  · next url hurl =>
    split at h
    · exact absurd h nofun
    · split at h
      · exact absurd h nofun
      · next hnamed =>
        obtain rfl := Except.ok.inj h
        obtain ⟨a, ha⟩ : ∃ a, url.authority = some a := by
          -- Without an authority there is no name either.
          cases ha : url.authority with
          | some a => exact ⟨a, rfl⟩
          | none => exact absurd (show url.username = [] by rw [Url.username, ha]) hnamed
        have hkeeps := Url.parse_keepsUserinfo hurl ha
        -- A character is one of the user or of the password, and a missing password has none.
        intro c hc
        rw [String.toList_ofList, String.toList_ofList, Url.username, Url.password?, ha] at hc
        rcases List.mem_append.mp hc with hc | hc
        · exact hkeeps.username c hc
        · cases hpassword : a.password with
          | none =>
            rw [Option.bind_some, hpassword] at hc
            exact absurd hc List.not_mem_nil
          | some cs =>
            rw [Option.bind_some, hpassword] at hc
            exact hkeeps.password cs hpassword c hc

/-- The usual encoding is the text itself only if none of its characters has to be encoded. -/
theorem percentEncode_isUnreserved_eq_self_iff (cs : List Char) :
    percentEncode isUnreserved cs = cs ↔ ∀ c ∈ cs, isUnreserved c = true := by
  rw [percentEncode_eq_self_iff]
  exact forall₂_congr fun c _ => and_iff_right_of_imp isUnreserved_ascii

/-- **Credentials stay encoded.** A connection string with an encoded user and an encoded password
at a plain address is read: the host, the port and the service are those of the address, and the
user and the password are their encodings. Decoding would give them back, but the driver gets them
themselves only if they are their own encodings; with the usual encoding that is if all of their
characters are unreserved.

In no other connection string is there a way to a user or a password with a character that a URL
encodes. -/
theorem credentials_stay_encoded {user password : String}
    {encodedUser encodedPassword host service : List Char} {port : Option Nat} (hnamed : user ≠ "")
    (huser : Encodes encodedUser user) (hpassword : Encodes encodedPassword password)
    (hhost : ∀ c ∈ host, isUnreserved c = true) (hhost_ne : host ≠ [])
    (hport : ∀ n ∈ port, n ≤ 65535)
    (hservice : ∀ c ∈ service, isUnreserved c = true) :
    (∃ found, OracleCredentials.parse
        (connectionString encodedUser encodedPassword host port service) = .ok found ∧
      found.connectString = String.ofList (connectText host port (keptService service)) ∧
      found.username.toList = encodedUser ∧ found.password.toList = encodedPassword ∧
      Bytes.toText? (percentDecode found.username.toList) = some user ∧
      Bytes.toText? (percentDecode found.password.toList) = some password ∧
      (found.username = user ∧ found.password = password ↔
        encodedUser = user.toList ∧ encodedPassword = password.toList)) ∧
    (percentEncode isUnreserved user.toList = user.toList ∧
        percentEncode isUnreserved password.toList = password.toList ↔
      ∀ c ∈ user.toList ++ password.toList, isUnreserved c = true) ∧
    ∀ text found, OracleCredentials.parse text = .ok found →
      found.username = user ∧ found.password = password →
      ∀ c ∈ user.toList ++ password.toList, Url.keepsUserinfo c = true := by
  refine ⟨?_, ?_, ?_⟩
  · have hparse :=
      parse_connectionString huser.kept (huser.ne_nil hnamed) hpassword.kept hhost hhost_ne
      hport hservice
    -- A text is its own encoding exactly if the characters that are handed on are its own.
    have hself : ∀ (encoded : List Char) (text : String),
        String.ofList encoded = text ↔ encoded = text.toList := by
      intro encoded text
      rw [← String.toList_inj, String.toList_ofList]
    refine ⟨_, hparse, rfl, String.toList_ofList, String.toList_ofList, ?_, ?_, ?_⟩
    · rw [String.toList_ofList]
      exact huser.toText?
    · rw [String.toList_ofList]
      exact hpassword.toText?
    · exact and_congr (hself encodedUser user) (hself encodedPassword password)
  · rw [percentEncode_isUnreserved_eq_self_iff, percentEncode_isUnreserved_eq_self_iff,
      List.forall_mem_append]
  · rintro text found hparse ⟨rfl, rfl⟩
    exact keepsUserinfo_of_parse hparse

/-- A text without special characters is an encoding of itself. -/
theorem encodes_self {text : String} (h : ∀ c ∈ text.toList, isUnreserved c = true) :
    Encodes text.toList text := by
  have hself : percentEncode isUnreserved text.toList = text.toList :=
    (percentEncode_isUnreserved_eq_self_iff _).mpr h
  have hencodes := encodes_percentEncode text
  rwa [hself] at hencodes

/-- A password with an at sign, as it stands in a connection string. -/
theorem encodes_atSign : Encodes "p%40ss".toList "p@ss" where
  kept := List.all_iff_forall_prop.mp (by decide)
  decodes := by
    have hat : percentByte 0x40 = "%40".toList := by decide
    have htext : "p%40ss".toList = 'p' :: (percentByte 0x40 ++ ['s', 's']) := by
      rw [hat]
      rfl
    rw [htext, percentDecode_cons (by decide), percentDecode_percentByte,
      percentDecode_cons (by decide), percentDecode_cons (by decide), percentDecode]
    exact (Bytes.ofText_ofList ['p', '@', 's', 's']).symm

/-- The address of a connection string, its user and its password, the last one still encoded. -/
theorem scott_stays_encoded :
    "scott" ≠ "" ∧ Encodes "scott".toList "scott" ∧ Encodes "p%40ss".toList "p@ss" ∧
    ∃ found, OracleCredentials.parse
        (connectionString "scott".toList "p%40ss".toList "db".toList (some 1521) "XE".toList)
          = .ok found ∧
      found.connectString = String.ofList (connectText "db".toList (some 1521) "XE".toList) ∧
      found.username.toList = "scott".toList ∧ found.password.toList = "p%40ss".toList ∧
      Bytes.toText? (percentDecode found.password.toList) = some "p@ss" := by
  have hscott : Encodes "scott".toList "scott" :=
    encodes_self (List.all_iff_forall_prop.mp (by decide))
  have hhost : ∀ c ∈ "db".toList, isUnreserved c = true := List.all_iff_forall_prop.mp (by decide)
  have hport : ∀ n ∈ some 1521, n ≤ 65535 := by decide
  have hservice : ∀ c ∈ "XE".toList, isUnreserved c = true :=
    List.all_iff_forall_prop.mp (by decide)
  -- The theorem for every address and encoding, at this one.
  obtain ⟨⟨found, hparse, hconnect, huser, hpassword, -, hdecodes, -⟩, -⟩ :=
    credentials_stay_encoded (by decide) hscott encodes_atSign hhost (by decide) hport hservice
  exact ⟨by decide, hscott, encodes_atSign, found, hparse, hconnect, huser, hpassword, hdecodes⟩

/-- The driver is not handed the password that was encoded. -/
theorem scott_not_decoded :
    Encodes "p%40ss".toList "p@ss" ∧
    ∃ found, OracleCredentials.parse
        (connectionString "scott".toList "p%40ss".toList "db".toList (some 1521) "XE".toList)
          = .ok found ∧
      found.password = "p%40ss" ∧ found.password ≠ "p@ss" := by
  have huser : ∀ c ∈ "scott".toList, Url.keepsUserinfo c = true :=
    List.all_iff_forall_prop.mp (by decide)
  have hhost : ∀ c ∈ "db".toList, isUnreserved c = true := List.all_iff_forall_prop.mp (by decide)
  have hservice : ∀ c ∈ "XE".toList, isUnreserved c = true :=
    List.all_iff_forall_prop.mp (by decide)
  have hparse := parse_connectionString huser (by decide) encodes_atSign.kept hhost (by decide)
    (show ∀ n ∈ some 1521, n ≤ 65535 by decide) hservice
  exact ⟨encodes_atSign, _, hparse, rfl, by decide⟩

end OracleCredentials

end StoreBridge
