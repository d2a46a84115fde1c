import StoreBridge.Proofs.Url.Authority

/-!
# Where a password ends a URL

The text behind a scheme may have a user, a colon and a password in front of its last at sign. How
it is read is decided by the password.

If no sign in the password ends the authority, the password is read as one, whatever it is: the text
is a URL exactly if the same text without the password is, and then they differ in the password only
(`Url.parse_of_clear`). If a sign does, it stands in front of the at sign, and there is no user.
What was meant for one is read as a host, and what stands in front of the sign as its port. Mostly
it is none, and the text is no URL. But digits are a port and so is nothing at all, and then there
is a URL that has no password (`Url.parse_of_split`, with `Url.readsAsHost` for the condition).

The URL of a file has a host and no user, so that the text is a URL only if the user and its colon
are taken for a drive letter. An at sign or a colon is in no domain name, even if it is encoded
(`Host.exists_parseDomain_error`).
-/

namespace StoreBridge

/-! ### Hosts that are none -/

namespace Host

/-- **A forbidden character** makes a domain name invalid, encoded or not. -/
theorem exists_parseDomain_error {c : Char} {cs : List Char} (hascii : c.toNat < 0x80)
    (hsign : c ≠ '%') (hdigit : hexValue? c = none) (hlower : asciiLower c = c)
    (hforbidden : isForbidden c = true) (hbracket : cs.head? ≠ some '[') (h : c ∈ cs) :
    ∃ fault, parseDomain cs = .error fault := by
  have hmem := mem_percentDecode hascii hsign hdigit h
  rw [parseDomain, if_neg hbracket]
  -- A name that is no text is refused, and in one that is the character is still found.
  cases hname : Bytes.toText? (percentDecode cs) with
  | none => exact ⟨_, rfl⟩
  | some name =>
    rw [← Bytes.toText?_eq_some_iff.mp hname] at hmem
    have hchar : c ∈ name.toList.map asciiLower :=
      List.mem_map.mpr ⟨c, Bytes.mem_toList_of_mem_ofText hascii hmem, hlower⟩
    have hany : (name.toList.map asciiLower).any (fun c => isForbidden c || c == '%' || !isPlain c)
        = true :=
      List.any_eq_true.mpr ⟨c, hchar, by rw [hforbidden]; rfl⟩
    exact ⟨_, if_pos (.inr hany)⟩

/-- A domain name is not empty: an empty one is refused, and an address in numbers has a digit in
front. -/
theorem parseDomain_ne_nil {cs name : List Char} (hbracket : cs.head? ≠ some '[')
    (h : parseDomain cs = .ok name) : name ≠ [] := by
  rw [parseDomain, if_neg hbracket] at h
  -- The name is refused, or it is an address, or it is taken as it is.
  split at h
  · exact absurd h nofun
  · dsimp only at h
    split at h
    · exact absurd h nofun
    · next hvalid =>
      split at h
      · split at h
        · next n hn =>
          -- An address has a number in front.
          rw [← Except.ok.inj h]
          obtain ⟨digit, digits, hdigits⟩ :=
            List.exists_cons_of_ne_nil (natDigits_ne_nil (n / pow2 24))
          show joinWith ['.'] (natDigits (n / pow2 24) :: _) ≠ []
          rw [hdigits, List.map_cons]
          exact List.cons_ne_nil _ _
        · exact absurd h nofun
      · rw [← Except.ok.inj h]
        exact fun hnil => hvalid (.inl hnil)

end Host

/-! ### How the text is read -/

/-- The first item of a list that has a property. -/
theorem exists_append_of_any {α : Type} {p : α → Bool} {xs : List α} (h : xs.any p = true) :
    ∃ front x after, xs = front ++ x :: after ∧ (∀ y ∈ front, p y = false) ∧ p x = true := by
  obtain ⟨y, hy, hpy⟩ := List.any_eq_true.mp h
  obtain ⟨x, hx⟩ := Option.isSome_iff_exists.mp (List.find?_isSome.mpr ⟨y, hy, hpy⟩)
  obtain ⟨hpx, front, after, rfl, hfront⟩ := List.find?_eq_some_iff_append.mp hx
  exact ⟨front, x, after, rfl, fun y hy => by simpa using hfront y hy, hpx⟩

namespace Url

/-- A host that is read is not empty. -/
theorem hostOf_ne_nil {special : Bool} {host name : List Char}
    (hhost : ∀ c ∈ host, c ≠ ':' ∧ c ≠ '[')
    (hne : host ≠ []) (h : hostOf special host = .ok name) : name ≠ [] := by
  have hbracket : host.head? ≠ some '[' :=
    fun hhead => (hhost _ (List.mem_of_head? hhead)).2 rfl
  -- A special scheme has a domain name, any other one a host that is just encoded.
  cases special with
  | true => exact Host.parseDomain_ne_nil hbracket h
  | false =>
    have hopaque : Host.parseOpaque host = .ok name := h
    rw [Host.parseOpaque, if_neg hbracket] at hopaque
    split at hopaque
    · exact absurd hopaque nofun
    · rw [← Except.ok.inj hopaque]
      intro hnil
      have hlength := length_le_percentEncode Host.isPlain host
      rw [hnil] at hlength
      exact hne (List.length_eq_zero_iff.mp (Nat.le_zero.mp hlength))

section HostPort

variable {default : Option Nat} {host cs : List Char} (hhost : ∀ c ∈ host, c ≠ ':' ∧ c ≠ '[')
  (hne : host ≠ [])

include hhost hne

/-- What reads as a host and a port is read as one. -/
theorem exists_parseHostPort_ok
    (h : ((hostOf default.isSome host).isOk && readsAsPort cs) = true) :
    ∃ name port rest, parseHostPort default (host ++ ':' :: cs) = .ok ((name, port), rest) := by
  rw [Bool.and_eq_true] at h
  rw [parseHostPort_port hhost hne, parsePort_eq, if_pos h.2]
  cases hname : hostOf default.isSome host with
  | error fault =>
    rw [hname] at h
    exact absurd h.1 Bool.false_ne_true
  | ok name => exact ⟨name, _, _, if_neg (hostOf_ne_nil hhost hne hname)⟩

/-- What does not read as a host and a port is refused. -/
theorem exists_parseHostPort_error
    (h : ((hostOf default.isSome host).isOk && readsAsPort cs) = false) :
    ∃ fault, parseHostPort default (host ++ ':' :: cs) = .error fault := by
  rw [parseHostPort_port hhost hne, parsePort_eq]
  cases hname : hostOf default.isSome host with
  | error fault => exact ⟨fault, rfl⟩
  | ok name =>
    rw [hname] at h
    have hport : readsAsPort cs = false := h
    rw [hport]
    exact ⟨.badPort, if_neg (hostOf_ne_nil hhost hne hname)⟩

end HostPort

/-- Whether a backslash ends the authority of a scheme as well. -/
def takesBackslash (scheme : List Char) : Bool :=
  scheme == "file".toList || (defaultPort? scheme).isSome

/-- Whether a user makes a host, and what follows its colon begins with a port: then there is a URL
without either a user or a password. For a file there is one if the user and the colon are a drive
letter, and nothing is in front of the path. -/
def readsAsHost (scheme user password : List Char) : Bool :=
  if scheme = "file".toList then
    UrlPath.isDriveLetter (user ++ [':']) && password.head?.any (endsAuthority true)
  else (hostOf (defaultPort? scheme).isSome user).isOk && readsAsPort password

section Read

variable {scheme user password rest : List Char} (hs : IsScheme scheme)
  (huser : ∀ c ∈ user, keepsUserinfo c = true) (huser_ne : user ≠ [])
  (hpassword : ∀ c ∈ password, 0x20 < c.toNat ∧ c ≠ '@')

include hs huser huser_ne hpassword

/-- **A password without a sign that ends the authority** is read as one, whatever it is. -/
theorem parse_authority_of_clear (hrest : '@' ∉ rest)
    (hfile : scheme.map asciiLower ≠ "file".toList)
    (hpassword_ne : password ≠ [])
    (hclear : ∀ c ∈ password,
      endsAuthority (defaultPort? (scheme.map asciiLower)).isSome c = false) :
    (∃ bare, parse (String.ofList (connectionText scheme user rest)) = .ok bare ∧
      bare.authority.isSome = true ∧
      parse (String.ofList (connectionText scheme (user ++ ':' :: password) rest))
        = .ok (bare.withPassword (percentEncode keepsUserinfo password))) ∨
    (∃ fault, parse (String.ofList (connectionText scheme user rest)) = .error fault) ∧
      ∃ fault, parse (String.ofList (connectionText scheme (user ++ ':' :: password) rest))
        = .error fault := by
  have hslash : ∀ cs, StopsAt isSlash (user ++ cs) := stopsAt_isSlash_append huser huser_ne
  -- The text is read with the user alone and with the password, and the host behind is the same.
  have hbare := parse_of_userinfo hs hfile huser_ne (fun c hc => keepsUserinfo_visible (huser c hc))
    (fun c hc => endsAuthority_of_keepsUserinfo (huser c hc) _) (hslash _) hrest huser_ne
    (parseUserinfo_name huser)
  have hslash_password : StopsAt isSlash (user ++ ':' :: password ++ '@' :: cleanEnd rest) := by
    rw [List.append_assoc]
    exact hslash _
  have hhidden := parse_of_userinfo hs hfile (List.append_ne_nil_of_left_ne_nil huser_ne _)
    (visible_userinfo huser fun c hc => (hpassword c hc).1) (endsAuthority_userinfo huser hclear)
    hslash_password hrest huser_ne (parseUserinfo_password huser password)
  rw [hbare, hhidden, if_neg hpassword_ne]
  -- So it depends on that host whether they are URLs.
  cases hostBehind (defaultPort? (scheme.map asciiLower)) (cleanEnd rest) with
  | error fault => exact .inr ⟨⟨fault, rfl⟩, fault, rfl⟩
  | ok found => exact .inl ⟨_, rfl, rfl, rfl⟩

/-- **A password with a sign that ends the authority** is none. The user is read as a host and the
front of the password as a port, and what else there is has no say in it. -/
theorem parse_authority_of_split (hfile : scheme.map asciiLower ≠ "file".toList)
    (hsplit : password.any (endsAuthority (defaultPort? (scheme.map asciiLower)).isSome) = true) :
    if readsAsHost (scheme.map asciiLower) user password then
      ∃ url, parse (String.ofList (connectionText scheme (user ++ ':' :: password) rest))
        = .ok url ∧
        url.password? = none
    else
      ∃ fault, parse (String.ofList (connectionText scheme (user ++ ':' :: password) rest))
        = .error fault := by
  -- The first sign decides, as what stands in front of it has none.
  obtain ⟨front, sign, after, rfl, hfront, hsign⟩ := exists_append_of_any hsplit
  have hslash :
      StopsAt isSlash (user ++ ':' :: (front ++ sign :: after) ++ '@' :: cleanEnd rest) := by
    rw [List.append_assoc]
    exact stopsAt_isSlash_append huser huser_ne _
  rw [parse_connectionText hs
    (visible_userinfo huser fun c hc => (hpassword c hc).1) rest hfile hslash,
    readsAsHost, if_neg hfile]
  generalize defaultPort? (scheme.map asciiLower) = default at hfront hsign ⊢
  -- The authority is what stands in front of the sign: a user, a colon, and part of the password.
  have hat : '@' ∉ user ++ ':' :: front := by
    intro hmem
    rw [List.mem_append, List.mem_cons] at hmem
    rcases hmem with hmem | heq | hmem
    · exact ne_of_keepsUserinfo (huser _ hmem) (by decide) rfl
    · exact absurd heq (by decide)
    · exact (hpassword '@' (List.mem_append_left _ hmem)).2 rfl
  have hbehind :
      StopsAt (!endsAuthority default.isSome ·) (sign :: (after ++ '@' :: cleanEnd rest)) :=
    stopsAt_cons (by rw [hsign]; rfl)
  have hhost : ∀ c ∈ user, c ≠ ':' ∧ c ≠ '[' := fun c hc =>
    ⟨ne_of_keepsUserinfo (huser c hc) (by decide), ne_of_keepsUserinfo (huser c hc) (by decide)⟩
  -- There is no at sign in it, so it is a host and a port.
  have hauthority := parseAuthority_of_host (endsAuthority_userinfo huser hfront) hat hbehind
  simp only [List.append_assoc, List.cons_append] at hauthority ⊢
  rw [hauthority, readsAsPort_append hsign]
  -- And it is a host and a port exactly if it reads as one.
  split
  · next hreads =>
    obtain ⟨name, port, behind, hread⟩ := exists_parseHostPort_ok hhost huser_ne hreads
    exact ⟨assembled _ ⟨[], none, name, port⟩ _, by rw [hread]; rfl, rfl⟩
  · next hreads =>
    obtain ⟨fault, hread⟩ :=
      exists_parseHostPort_error hhost huser_ne (Bool.eq_false_iff.mpr hreads)
    exact ⟨fault, by rw [hread]; rfl⟩

end Read

/-! ### Files -/

section File

variable {scheme user password rest : List Char} (hs : IsScheme scheme)
  (hfile : scheme.map asciiLower = "file".toList)
  (huser : ∀ c ∈ user, keepsUserinfo c = true) (huser_ne : user ≠ [])

/-- A drive letter stands alone. -/
theorem isDriveLetter_append (huser_ne : user ≠ []) (front : List Char) :
    UrlPath.isDriveLetter (user ++ ':' :: front)
      = (UrlPath.isDriveLetter (user ++ [':']) && front.isEmpty) := by
  -- A drive letter is one letter and its colon: the cases are by how many characters there are.
  cases user with
  | nil => exact absurd rfl huser_ne
  | cons a user =>
    cases user with
    | nil =>
      cases front with
      | nil => exact (Bool.and_true _).symm
      | cons b front => exact (Bool.and_false _).symm
    | cons b user => cases user <;> rfl

/-- A text with an at sign is no drive letter. -/
theorem isDriveLetter_at {info cs : List Char} (hinfo : info ≠ []) :
    UrlPath.isDriveLetter (info ++ '@' :: cs) = false := by
  -- Two characters of which one is the at sign, or more than two.
  cases info with
  | nil => exact absurd rfl hinfo
  | cons a info =>
    cases info with
    | nil =>
      cases cs with
      | nil => exact Bool.and_false _
      | cons b cs => rfl
    | cons b info => cases info <;> rfl

include hs hfile

/-- **A file has no user.** What is in front of an at sign is no host. -/
theorem parse_file_of_clear {info : List Char} (hinfo_ne : info ≠ [])
    (hvisible : ∀ c ∈ info, 0x20 < c.toNat) (hinfo : ∀ c ∈ info, endsAuthority true c = false)
    (hbracket :
      (info ++ '@' :: (cleanEnd rest).takeWhile (!endsAuthority true ·)).head? ≠ some '[') :
    ∃ fault, parse (String.ofList (connectionText scheme info rest)) = .error fault := by
  obtain ⟨fault, hfault⟩ := Host.exists_parseDomain_error (c := '@') (by decide) (by decide)
    (by decide) (by decide) (by decide) hbracket (List.mem_append_right _ List.mem_cons_self)
  -- The whole text in front of the path is taken for a host, and it has an at sign.
  refine ⟨fault, ?_⟩
  rw [parse_connectionText_file hs hvisible rest hfile, parseFileHost,
    takeWhile_user hinfo (cleanEnd rest), isDriveLetter_at hinfo_ne, if_neg Bool.false_ne_true,
    if_neg (by simp), hfault]
  rfl

include huser huser_ne

/-- **The front of a file's password** is a host only if it is part of a drive letter. -/
theorem parse_file_of_split (hpassword : ∀ c ∈ password, 0x20 < c.toNat)
    (hsplit : password.any (endsAuthority true) = true) :
    if readsAsHost (scheme.map asciiLower) user password then
      ∃ url, parse (String.ofList (connectionText scheme (user ++ ':' :: password) rest))
        = .ok url ∧
        url.password? = none
    else
      ∃ fault, parse (String.ofList (connectionText scheme (user ++ ':' :: password) rest))
        = .error fault := by
  -- What stands in front of the first sign is taken for a host, or for a drive letter.
  obtain ⟨front, sign, after, rfl, hfront, hsign⟩ := exists_append_of_any hsplit
  have hwhole : ∀ c ∈ user ++ ':' :: front, (!endsAuthority true c) = true := by
    intro c hc
    rw [endsAuthority_userinfo huser hfront c hc]
    rfl
  have hbehind : StopsAt (!endsAuthority true ·) (sign :: (after ++ '@' :: cleanEnd rest)) :=
    stopsAt_cons (by rw [hsign]; rfl)
  have htake := takeWhile_append_of_stopsAt hwhole hbehind
  have hempty : (front ++ sign :: after).head?.any (endsAuthority true) = front.isEmpty := by
    cases front with
    | nil => exact hsign
    | cons c front => exact hfront c List.mem_cons_self
  rw [parse_connectionText_file hs (visible_userinfo huser hpassword) rest hfile, readsAsHost,
    if_pos hfile, hempty]
  simp only [List.append_assoc, List.cons_append] at htake ⊢
  rw [parseFileHost, htake, isDriveLetter_append huser_ne front]
  -- A drive letter belongs to the path; a host with a colon in it is none.
  split
  · exact ⟨fileUrl _ [] _, rfl, rfl⟩
  · obtain ⟨fault, hfault⟩ := Host.exists_parseDomain_error (c := ':') (by decide) (by decide)
      (by decide) (by decide) (by decide) (head?_append_ne_bracket huser huser_ne (':' :: front))
      (List.mem_append_right _ List.mem_cons_self)
    refine ⟨fault, ?_⟩
    rw [if_neg (by simp), hfault]
    rfl

end File

/-! ### Any scheme -/

section Any

variable {scheme user password : List Char} (hs : IsScheme scheme)
  (huser : ∀ c ∈ user, keepsUserinfo c = true) (huser_ne : user ≠ [])
  (hpassword : ∀ c ∈ password, 0x20 < c.toNat ∧ c ≠ '@')

include hs huser huser_ne hpassword

/-- **A password without a sign that ends the authority.** Either the text without it is a URL, and
with the password it is the same one with this password, or neither of them is one. -/
theorem parse_of_clear {rest : List Char} (hrest : '@' ∉ rest) (hpassword_ne : password ≠ [])
    (hclear : password.any (endsAuthority (takesBackslash (scheme.map asciiLower))) = false) :
    (∃ bare, parse (String.ofList (connectionText scheme user rest)) = .ok bare ∧
      bare.authority.isSome = true ∧
      parse (String.ofList (connectionText scheme (user ++ ':' :: password) rest))
        = .ok (bare.withPassword (percentEncode keepsUserinfo password))) ∨
    (∃ fault, parse (String.ofList (connectionText scheme user rest)) = .error fault) ∧
      ∃ fault, parse (String.ofList (connectionText scheme (user ++ ':' :: password) rest))
        = .error fault := by
  have hsigns : ∀ c ∈ password, endsAuthority (takesBackslash (scheme.map asciiLower)) c = false :=
    fun c hc => by simpa using List.any_eq_false.mp hclear c hc
  -- A file has no user, so with and without the password it is no URL.
  by_cases hfile : scheme.map asciiLower = "file".toList
  · rw [takesBackslash, hfile] at hsigns
    have hbracket : ∀ cs, (user ++ cs).head? ≠ some '[' := head?_append_ne_bracket huser huser_ne
    have hbracket_password : (user ++ ':' :: password
        ++ '@' :: (cleanEnd rest).takeWhile (!endsAuthority true ·)).head? ≠ some '[' := by
      rw [List.append_assoc]
      exact hbracket _
    exact .inr
      ⟨parse_file_of_clear hs hfile huser_ne (fun c hc => keepsUserinfo_visible (huser c hc))
          (fun c hc => endsAuthority_of_keepsUserinfo (huser c hc) true) (hbracket _),
        parse_file_of_clear hs hfile (List.append_ne_nil_of_left_ne_nil huser_ne _)
          (visible_userinfo huser fun c hc => (hpassword c hc).1)
          (endsAuthority_userinfo huser hsigns) hbracket_password⟩
  · rw [takesBackslash, beq_eq_false_iff_ne.mpr hfile, Bool.false_or] at hsigns
    exact parse_authority_of_clear hs huser huser_ne hpassword hrest hfile hpassword_ne hsigns

/-- **A password with a sign that ends the authority.** The text is a URL without a password if its
front reads as a host, and no URL otherwise. -/
theorem parse_of_split (rest : List Char)
    (hsplit : password.any (endsAuthority (takesBackslash (scheme.map asciiLower))) = true) :
    if readsAsHost (scheme.map asciiLower) user password then
      ∃ url, parse (String.ofList (connectionText scheme (user ++ ':' :: password) rest))
        = .ok url ∧
        url.password? = none
    else
      ∃ fault, parse (String.ofList (connectionText scheme (user ++ ':' :: password) rest))
        = .error fault := by
  by_cases hfile : scheme.map asciiLower = "file".toList
  · rw [takesBackslash, hfile] at hsplit
    exact parse_file_of_split hs hfile huser huser_ne (fun c hc => (hpassword c hc).1) hsplit
  · rw [takesBackslash, beq_eq_false_iff_ne.mpr hfile, Bool.false_or] at hsplit
    exact parse_authority_of_split hs huser huser_ne hpassword hfile hsplit

end Any

end Url

end StoreBridge
