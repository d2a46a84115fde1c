import Mathlib.Data.Bool.AllAny
import StoreBridge.Proofs.Sql.LimitClause
import StoreBridge.Proofs.Text.Joined
import StoreBridge.Proofs.Text.Percent
import StoreBridge.Url.Parser

/-!
# URLs with a user

How the text of a URL is taken apart from its scheme to its port, if its scheme is followed by two
slashes and visible characters. What stands behind these may be anything, and is only cleaned
(`Url.cleanEnd_append`).

The authority ends at the first slash, question mark or number sign, and its user at the last `@` in
it. So if the user has none of these signs, it is the same user whatever follows
(`parseAuthority_of_userinfo`). If there is no `@` in front of the end, there is no user, and what
was meant for one is read as a host and a port (`parseAuthority_of_host`).
-/

namespace StoreBridge

/-! ### Runs of characters -/

section Run

variable {p : Char → Bool} {xs rest : List Char}

/-- A run is taken as a whole, and nothing of what stops it. -/
theorem takeWhile_append_of_stopsAt (hx : ∀ c ∈ xs, p c = true) (hr : StopsAt p rest) :
    (xs ++ rest).takeWhile p = xs := by
  rw [List.takeWhile_append_of_pos hx]
  cases rest with
  | nil => rw [List.takeWhile_nil, List.append_nil]
  | cons c rest => rw [List.takeWhile_cons_of_neg (by rw [hr c rfl]; decide), List.append_nil]

/-- What stops a run is left when the run is dropped. -/
theorem dropWhile_append_of_stopsAt (hx : ∀ c ∈ xs, p c = true) (hr : StopsAt p rest) :
    (xs ++ rest).dropWhile p = rest := by
  rw [List.dropWhile_append_of_pos hx]
  cases rest with
  | nil => rfl
  | cons c rest => rw [List.dropWhile_cons_of_neg (by rw [hr c rfl]; decide)]

/-- A run ends in front of the first character of another class, whatever follows that. -/
theorem takeWhile_append_cons {c : Char} (hc : p c = false) (xs ys : List Char) :
    (xs ++ c :: ys).takeWhile p = xs.takeWhile p := by
  induction xs with
  | nil => exact List.takeWhile_cons_of_neg (by rw [hc]; decide)
  | cons x xs ih =>
    rw [List.cons_append, List.takeWhile_cons, List.takeWhile_cons, ih]

/-- What a run leaves has the first character of another class in it, and all that follows. -/
theorem dropWhile_append_cons {c : Char} (hc : p c = false) (xs ys : List Char) :
    (xs ++ c :: ys).dropWhile p = xs.dropWhile p ++ c :: ys := by
  induction xs with
  | nil => exact List.dropWhile_cons_of_neg (by rw [hc]; decide)
  | cons x xs ih =>
    rw [List.cons_append, List.dropWhile_cons, List.dropWhile_cons, ih]
    split <;> rfl

end Run

/-! ### Characters that need no encoding -/

/-- A letter, a digit, a hyphen, a point, an underscore or a tilde. -/
def isUnreserved (c : Char) : Bool :=
  c.isAlphanum || "-._~".toList.contains c

/-- Letters and digits need no encoding. -/
theorem isUnreserved_of_isAlphanum {c : Char} (h : c.isAlphanum = true) :
    isUnreserved c = true := by
  rw [isUnreserved, h, Bool.true_or]

/-- A character that needs no encoding is ASCII. -/
theorem isUnreserved_ascii {c : Char} (h : isUnreserved c = true) : c.toNat < 0x80 := by
  rw [isUnreserved, Bool.or_eq_true] at h
  rcases h with h | h
  · have hn : c.val.toNat = c.toNat := rfl
    unfold Char.isAlphanum Char.isAlpha Char.isUpper Char.isLower Char.isDigit at h
    simp only [Bool.or_eq_true, Bool.and_eq_true, decide_eq_true_eq, UInt32.le_iff_toNat_le,
      ge_iff_le, hn] at h
    simp at h
    omega
  · have hall : ∀ d ∈ "-._~".toList, d.toNat < 0x80 := List.all_iff_forall_prop.mp (by decide)
    exact hall c (List.contains_iff_mem.mp h)

/-- The character stands for itself in every part of a URL, and takes none of them apart. -/
structure StandsForItself (c : Char) : Prop where
  userinfo : Url.keepsUserinfo c = true
  path : UrlPath.keeps c = true
  host : Host.isPlain c = true
  allowed : Host.isForbidden c = false

/-- **A character that needs no encoding** stands for itself everywhere. -/
theorem standsForItself_of_isUnreserved {c : Char} (h : isUnreserved c = true) :
    StandsForItself c := by
  -- There are 128 characters to look at.
  have hall : ∀ d : Char, d.toNat < 0x80 → isUnreserved d = true →
      Url.keepsUserinfo d = true ∧ UrlPath.keeps d = true ∧ Host.isPlain d = true ∧
        Host.isForbidden d = false :=
    forall_char_lt (by decide)
  obtain ⟨huserinfo, hpath, hhost, hallowed⟩ := hall c (isUnreserved_ascii h) h
  exact ⟨huserinfo, hpath, hhost, hallowed⟩

/-- A connection string: a scheme, what stands for the user, and the rest behind an at sign. -/
def connectionText (scheme info rest : List Char) : List Char :=
  scheme ++ ':' :: '/' :: '/' :: (info ++ '@' :: rest)

namespace Url

/-! ### Cleaning -/

/-- What cleaning leaves of a text behind visible characters. -/
def cleanEnd (cs : List Char) : List Char :=
  (dropEndWhile (fun c => c.toNat ≤ 0x20) cs).filter fun c => c != '\t' && c != '\n' && c != '\r'

/-- Cleaning adds nothing. -/
theorem mem_of_mem_cleanEnd {c : Char} {cs : List Char} (h : c ∈ cleanEnd cs) : c ∈ cs := by
  obtain ⟨dropped, hcs, -⟩ :=
    exists_dropEndWhile_append (fun c : Char => decide (c.toNat ≤ 0x20)) cs
  rw [hcs]
  exact List.mem_append_left _ (List.mem_of_mem_filter h)

section Clean

variable {xs : List Char} (hx : ∀ c ∈ xs, 0x20 < c.toNat)

include hx

/-- A visible character is not taken away at the ends. -/
private theorem invisible_of_mem : ∀ c ∈ xs, decide (c.toNat ≤ 0x20) = false := by
  intro c hc
  have := hx c hc
  exact decide_eq_false (by omega)

/-- **Visible characters** are kept, and only what follows them is cleaned. -/
theorem cleanEnd_append (rest : List Char) : cleanEnd (xs ++ rest) = xs ++ cleanEnd rest := by
  have hkept : xs.filter (fun c => c != '\t' && c != '\n' && c != '\r') = xs := by
    refine List.filter_eq_self.mpr fun c hc => ?_
    have hvisible := hx c hc
    simp only [Bool.and_eq_true, bne_iff_ne, ne_eq]
    refine ⟨⟨?_, ?_⟩, ?_⟩ <;> rintro rfl <;> exact absurd hvisible (by decide)
  rw [cleanEnd, dropEndWhile_append (invisible_of_mem hx), List.filter_append, hkept]
  rfl

/-- Visible characters at the front of a text are kept, and what follows them is cleaned. -/
theorem clean_append (hne : xs ≠ []) (rest : List Char) :
    clean (xs ++ rest) = xs ++ cleanEnd rest := by
  have hfront : (xs ++ rest).dropWhile (fun c => decide (c.toNat ≤ 0x20)) = xs ++ rest := by
    obtain ⟨c, cs, rfl⟩ := List.exists_cons_of_ne_nil hne
    rw [List.cons_append, List.dropWhile_cons_of_neg]
    rw [invisible_of_mem hx c List.mem_cons_self]
    decide
  show cleanEnd (List.dropWhile _ (xs ++ rest)) = _
  rw [hfront, cleanEnd_append hx]

end Clean

/-! ### Schemes -/

/-- A scheme: a letter, and letters, digits, plus signs, hyphens and points behind it. -/
structure IsScheme (cs : List Char) : Prop where
  head : cs.head?.any Char.isAlpha = true
  parts : ∀ c ∈ cs, isSchemePart c = true

namespace IsScheme

variable {scheme : List Char} (h : IsScheme scheme)

include h

theorem ne_nil : scheme ≠ [] := by
  rintro rfl
  exact absurd h.head (by decide)

/-- A scheme is visible. -/
theorem visible : ∀ c ∈ scheme, 0x20 < c.toNat := by
  intro c hc
  by_contra hlow
  have hnone : ∀ d : Char, d.toNat < 0x21 → isSchemePart d = false := forall_char_lt (by decide)
  have hpart := hnone c (by omega)
  rw [h.parts c hc] at hpart
  exact absurd hpart (by decide)

theorem not_mem_colon : ':' ∉ scheme :=
  fun hmem => absurd (h.parts _ hmem) (by decide)

/-- A scheme ends at its colon, and is read in small letters. -/
theorem splitScheme?_append (rest : List Char) :
    splitScheme? (scheme ++ ':' :: rest) = some (scheme.map asciiLower, rest) := by
  have hstop : StopsAt isSchemePart (':' :: rest) := stopsAt_cons (by decide)
  obtain ⟨c, cs, rfl⟩ := List.exists_cons_of_ne_nil h.ne_nil
  have hhead : ((c :: cs) ++ ':' :: rest).head?.any Char.isAlpha = true := h.head
  rw [splitScheme?, dropWhile_append_of_stopsAt h.parts hstop]
  show (if _ then _ else _) = _
  rw [if_pos hhead, takeWhile_append_of_stopsAt h.parts hstop]

end IsScheme

/-- The URL of a scheme with its authority and the text behind it. -/
def assembled (scheme : List Char) (authority : Authority) (rest : List Char) : Url :=
  let special := (defaultPort? scheme).isSome
  let (front, query, fragment) := splitTail special rest
  ⟨scheme, some authority, parsePath special front, query, fragment⟩

section Text

variable {scheme info : List Char} (hs : IsScheme scheme) (hinfo : ∀ c ∈ info, 0x20 < c.toNat)
  (rest : List Char)

include hs hinfo

/-- The scheme of a connection string is found whatever stands behind its user, which alone may need
cleaning. -/
theorem splitScheme?_clean : splitScheme? (clean (connectionText scheme info rest)) =
    some (scheme.map asciiLower, '/' :: '/' :: (info ++ '@' :: cleanEnd rest)) := by
  -- Everything up to the at sign is visible, so nothing of it is taken away.
  have hvisible : ∀ c ∈ scheme ++ ':' :: '/' :: '/' :: (info ++ ['@']), 0x20 < c.toNat := by
    intro c hc
    simp only [List.mem_append, List.mem_cons, List.not_mem_nil, or_false] at hc
    rcases hc with hc | rfl | rfl | rfl | hc | rfl
    · exact hs.visible c hc
    · decide
    · decide
    · decide
    · exact hinfo c hc
    · decide
  have hclean := clean_append hvisible (by simp) rest
  simp only [List.append_assoc, List.cons_append, List.nil_append] at hclean
  rw [connectionText, hclean, hs.splitScheme?_append]

/-- **A connection string** has an authority behind its scheme, unless it is a file's. -/
theorem parse_connectionText (hfile : scheme.map asciiLower ≠ "file".toList)
    (hslash : StopsAt isSlash (info ++ '@' :: cleanEnd rest)) :
    parse (String.ofList (connectionText scheme info rest)) =
      (parseAuthority (defaultPort? (scheme.map asciiLower)) (info ++ '@' :: cleanEnd rest)).map
        fun (authority, rest) => assembled (scheme.map asciiLower) authority rest := by
  rw [parse, String.toList_ofList, splitScheme?_clean hs hinfo rest]
  show (if _ then _ else _) = _
  -- A special scheme skips all slashes, any other one just the two.
  rw [if_neg hfile]
  cases hspecial : (defaultPort? (scheme.map asciiLower)).isSome with
  | true =>
    have hslashes : ('/' :: '/' :: (info ++ '@' :: cleanEnd rest)).dropWhile isSlash
        = info ++ '@' :: cleanEnd rest := by
      have hfront : ∀ c ∈ ['/', '/'], isSlash c = true := List.all_iff_forall_prop.mp (by decide)
      exact dropWhile_append_of_stopsAt hfront hslash
    rw [if_pos rfl, hslashes]
    cases hauthority : parseAuthority (defaultPort? (scheme.map asciiLower))
        (info ++ '@' :: cleanEnd rest) with
    | error fault => rfl
    | ok found =>
      show Except.ok _ = Except.ok (assembled _ _ _)
      rw [assembled, hspecial]
      rfl
  | false =>
    have hnone : defaultPort? (scheme.map asciiLower) = none := by simpa using hspecial
    rw [if_neg Bool.false_ne_true, hnone]
    show Except.bind (parseAuthority none (info ++ '@' :: cleanEnd rest)) _ = _
    cases hauthority : parseAuthority none (info ++ '@' :: cleanEnd rest) with
    | error fault => rfl
    | ok found =>
      show Except.ok _ = Except.ok (assembled _ _ _)
      rw [assembled, hspecial]
      rfl

/-- A file's connection string has a host there. -/
theorem parse_connectionText_file (hfile : scheme.map asciiLower = "file".toList) :
    parse (String.ofList (connectionText scheme info rest)) =
      (parseFileHost (info ++ '@' :: cleanEnd rest)).map fun (host, path) =>
        fileUrl (scheme.map asciiLower) host path := by
  rw [parse, String.toList_ofList, splitScheme?_clean hs hinfo rest]
  show (if _ then _ else _) = _
  rw [if_pos hfile]
  show Except.bind (parseFileHost (info ++ '@' :: cleanEnd rest)) _ = _
  cases parseFileHost (info ++ '@' :: cleanEnd rest) <;> rfl

end Text

/-! ### Users -/

section User

variable {name password : List Char}

/-- A character that stands for itself in a user is ASCII. -/
theorem keepsUserinfo_ascii {c : Char} (h : keepsUserinfo c = true) : c.toNat < 0x80 := by
  simp only [keepsUserinfo, UrlPath.keeps, UrlPath.keepsFragment, Bool.and_eq_true,
    decide_eq_true_eq] at h
  omega

/-- A character that stands for itself in a user is visible. -/
theorem keepsUserinfo_visible {c : Char} (h : keepsUserinfo c = true) : 0x20 < c.toNat := by
  simp only [keepsUserinfo, UrlPath.keeps, UrlPath.keepsFragment, Bool.and_eq_true,
    decide_eq_true_eq] at h
  omega

/-- The signs that take a URL apart do not stand for themselves in a name. -/
theorem keepsUserinfo_delimiters : ∀ c ∈ ":@/\\?#[".toList, keepsUserinfo c = false :=
  List.all_iff_forall_prop.mp (by decide)

/-- A character that stands for itself in a user is none of the signs that take a URL apart. -/
theorem ne_of_keepsUserinfo {c d : Char} (h : keepsUserinfo c = true) (hd : d ∈ ":@/\\?#[".toList) :
    c ≠ d := by
  rintro rfl
  rw [keepsUserinfo_delimiters c hd] at h
  exact absurd h (by decide)

/-- A character that stands for itself in a user does not end an authority. -/
theorem endsAuthority_of_keepsUserinfo {c : Char} (h : keepsUserinfo c = true) (special : Bool) :
    endsAuthority special c = false := by
  have hslash := ne_of_keepsUserinfo h (d := '/') (by decide)
  have hback := ne_of_keepsUserinfo h (d := '\\') (by decide)
  have hquestion := ne_of_keepsUserinfo h (d := '?') (by decide)
  have hnumber := ne_of_keepsUserinfo h (d := '#') (by decide)
  simp [endsAuthority, hslash, hback, hquestion, hnumber]

/-- A character that stands for itself in a user is no slash. -/
theorem isSlash_of_keepsUserinfo {c : Char} (h : keepsUserinfo c = true) : isSlash c = false := by
  have hslash := ne_of_keepsUserinfo h (d := '/') (by decide)
  have hback := ne_of_keepsUserinfo h (d := '\\') (by decide)
  simp [isSlash, hslash, hback]

section Name

variable (hname : ∀ c ∈ name, keepsUserinfo c = true)

include hname

/-- The slashes behind a scheme end where a user begins. -/
theorem stopsAt_isSlash_append (hne : name ≠ []) (cs : List Char) :
    StopsAt isSlash (name ++ cs) := by
  obtain ⟨c, tail, rfl⟩ := List.exists_cons_of_ne_nil hne
  exact stopsAt_cons (isSlash_of_keepsUserinfo (hname c List.mem_cons_self))

/-- A user begins with no bracket, so that it is not taken for an address. -/
theorem head?_append_ne_bracket (hne : name ≠ []) (cs : List Char) :
    (name ++ cs).head? ≠ some '[' := by
  obtain ⟨c, tail, rfl⟩ := List.exists_cons_of_ne_nil hne
  intro hhead
  exact ne_of_keepsUserinfo (hname c List.mem_cons_self) (by decide) (Option.some.inj hhead)

/-- A name with a password behind it is visible if the password is. -/
theorem visible_userinfo (hpassword : ∀ c ∈ password, 0x20 < c.toNat) :
    ∀ c ∈ name ++ ':' :: password, 0x20 < c.toNat := by
  intro c hc
  rcases List.mem_append.mp hc with hc | hc
  · exact keepsUserinfo_visible (hname c hc)
  · rcases List.mem_cons.mp hc with rfl | hc
    · decide
    · exact hpassword c hc

/-- A name with a password behind it does not end an authority if the password does not. -/
theorem endsAuthority_userinfo {special : Bool}
    (hpassword : ∀ c ∈ password, endsAuthority special c = false) :
    ∀ c ∈ name ++ ':' :: password, endsAuthority special c = false := by
  intro c hc
  rcases List.mem_append.mp hc with hc | hc
  · exact endsAuthority_of_keepsUserinfo (hname c hc) special
  · rcases List.mem_cons.mp hc with rfl | hc
    · cases special <;> rfl
    · exact hpassword c hc

end Name

/-- A name that needs no encoding is encoded as itself. -/
theorem percentEncode_keepsUserinfo (h : ∀ c ∈ name, keepsUserinfo c = true) :
    percentEncode keepsUserinfo name = name :=
  percentEncode_of_kept fun c hc => ⟨keepsUserinfo_ascii (h c hc), h c hc⟩

/-- A user without a password. -/
theorem parseUserinfo_name (h : ∀ c ∈ name, keepsUserinfo c = true) :
    parseUserinfo name = (name, none) := by
  have hcolon : ∀ c ∈ name, (c != ':') = true := by
    intro c hc
    exact bne_iff_ne.mpr (ne_of_keepsUserinfo (h c hc) (by decide))
  have htake := takeWhile_append_of_stopsAt hcolon (stopsAt_nil _)
  have hdrop := dropWhile_append_of_stopsAt hcolon (stopsAt_nil _)
  rw [List.append_nil] at htake hdrop
  rw [parseUserinfo, htake, hdrop, percentEncode_keepsUserinfo h]

/-- A user with a password; an empty one is none. -/
theorem parseUserinfo_password (h : ∀ c ∈ name, keepsUserinfo c = true) (password : List Char) :
    parseUserinfo (name ++ ':' :: password) =
      (name, if password = [] then none else some (percentEncode keepsUserinfo password)) := by
  have hcolon : ∀ c ∈ name, (c != ':') = true := by
    intro c hc
    exact bne_iff_ne.mpr (ne_of_keepsUserinfo (h c hc) (by decide))
  have hstop : StopsAt (· != ':') (':' :: password) := stopsAt_cons (by decide)
  -- The name has no colon, so it ends at the first one.
  rw [parseUserinfo, takeWhile_append_of_stopsAt hcolon hstop,
    dropWhile_append_of_stopsAt hcolon hstop, percentEncode_keepsUserinfo h]
  cases password with
  | nil => rfl
  | cons c password => rfl

end User

/-! ### Hosts and ports -/

/-- A host without brackets ends at its colon. -/
theorem splitHost_append {host rest : List Char} (hhost : ∀ c ∈ host, c ≠ ':' ∧ c ≠ '[')
    (hrest : StopsAt (· != ':') rest) : splitHost false (host ++ rest) = (host, rest) := by
  induction host with
  | nil =>
    cases rest with
    | nil => rfl
    | cons c rest =>
      obtain rfl : c = ':' := by simpa using hrest c rfl
      rfl
  | cons c host ih =>
    -- No bracket is opened in the host, so the next colon is its end.
    obtain ⟨hc, hhost⟩ := List.forall_mem_cons.mp hhost
    have hinside : (c == '[' || (false && c != ']')) = false := by simp [hc.2]
    rw [List.cons_append, splitHost, if_neg fun h => hc.1 h.1]
    show (let (host, rest) := splitHost (c == '[' || (false && c != ']')) (host ++ rest); _) = _
    rw [hinside, ih hhost]

/-- Whether a text begins with a port: digits up to 65535, or none, and nothing but a sign that ends
an authority behind them. -/
def readsAsPort (cs : List Char) : Bool :=
  decide (natOfDigits (cs.takeWhile isDigit) ≤ 65535) &&
    (cs.dropWhile isDigit).head?.all fun c => c == '/' || c == '\\' || c == '?' || c == '#'

/-- **A port** is read where there is one, up to the character behind its digits. -/
theorem parsePort_eq (cs : List Char) :
    parsePort cs = if readsAsPort cs then
      .ok (if cs.takeWhile isDigit = [] then none else some (natOfDigits (cs.takeWhile isDigit)),
        cs.dropWhile isDigit)
    else .error .badPort := by
  show (if _ then _ else if _ then _ else _) = _
  rw [readsAsPort]
  -- A port is refused for its size, or else for the character behind its digits.
  by_cases hbig : 65535 < natOfDigits (cs.takeWhile isDigit)
  · rw [if_pos hbig, decide_eq_false (Nat.not_le.mpr hbig), Bool.false_and,
      if_neg Bool.false_ne_true]
  · rw [if_neg hbig, decide_eq_true (Nat.not_lt.mp hbig), Bool.true_and]
    cases (cs.dropWhile isDigit).head? with
    | none => rfl
    | some c =>
      rw [Option.any_some, Option.all_some]
      cases c == '/' || c == '\\' || c == '?' || c == '#' <;> rfl

/-- A sign that ends an authority ends a port, so that what follows it is no matter. -/
theorem readsAsPort_append {special : Bool} {c : Char} (hc : endsAuthority special c = true)
    (front after : List Char) : readsAsPort (front ++ c :: after) = readsAsPort front := by
  have hsign : (c == '/' || c == '\\' || c == '?' || c == '#') = true := by
    simp only [endsAuthority, Bool.or_eq_true, Bool.and_eq_true] at hc ⊢
    tauto
  have hdigit : isDigit c = false := by
    simp only [Bool.or_eq_true, beq_iff_eq] at hsign
    rcases hsign with ((rfl | rfl) | rfl) | rfl <;> decide
  -- The sign is no digit, so the digits are the same; it may be what stands behind them.
  rw [readsAsPort, readsAsPort, takeWhile_append_cons hdigit, dropWhile_append_cons hdigit]
  cases front.dropWhile isDigit with
  | nil =>
    show (_ && (some c).all _) = (_ && (none : Option Char).all _)
    rw [Option.all_some, hsign]
    rfl
  | cons d rest => rfl

/-- The host that a text spells. -/
def hostOf (special : Bool) (cs : List Char) : Except UrlFault (List Char) :=
  if special then Host.parseDomain cs else Host.parseOpaque cs

section HostPort

variable {host : List Char} (hhost : ∀ c ∈ host, c ≠ ':' ∧ c ≠ '[') (hne : host ≠ [])
  (default : Option Nat)

include hhost hne

/-- A host without a port. -/
theorem parseHostPort_host :
    parseHostPort default host
      = (hostOf default.isSome host).map fun name => ((name, none), []) := by
  have hsplit := splitHost_append hhost (stopsAt_nil _)
  rw [List.append_nil] at hsplit
  rw [parseHostPort, hsplit]
  show (if _ then _ else _) = _
  rw [if_neg fun h => hne h.2, hostOf]
  cases default.isSome with
  | true => cases Host.parseDomain host <;> rfl
  | false => cases Host.parseOpaque host <;> rfl

/-- A host with a colon behind it: if it is one and is not empty, a port is read next, and the one
that the scheme has anyway is left out. -/
theorem parseHostPort_port (cs : List Char) :
    parseHostPort default (host ++ ':' :: cs) = (hostOf default.isSome host).bind fun name =>
      if name = [] then .error .emptyHost
      else (parsePort cs).map fun (port, rest) =>
        ((name, if port = default then none else port), rest) := by
  have hstop : StopsAt (· != ':') (':' :: cs) := stopsAt_cons (by decide)
  rw [parseHostPort, splitHost_append hhost hstop]
  show (if _ then _ else _) = _
  rw [if_neg fun h => hne h.2, hostOf]
  -- Both kinds of host go on in the same way, once the host has its name.
  have hport : ∀ name : List Char,
      (if name = [] then .error .emptyHost
        else do
          let (port, rest) ← parsePort cs
          return ((name, if port = default then none else port), rest)) =
      if name = [] then (.error .emptyHost : Except UrlFault ((List Char × Option Nat) × List Char))
      else (parsePort cs).map fun (port, rest) =>
        ((name, if port = default then none else port), rest) := by
    intro name
    cases parsePort cs <;> rfl
  cases default.isSome with
  | true => exact congrArg (Except.bind (Host.parseDomain host)) (funext hport)
  | false => exact congrArg (Except.bind (Host.parseOpaque host)) (funext hport)

end HostPort

/-! ### Authorities -/

/-- What is read behind a user: the host with its port, and the text behind them. -/
def hostBehind (default : Option Nat) (cs : List Char) :
    Except UrlFault ((List Char × Option Nat) × List Char) :=
  (parseHostPort default (cs.takeWhile (!endsAuthority default.isSome ·))).bind
    fun ((host, port), rest) =>
      if host = [] then .error .emptyHost
      else .ok ((host, port), rest ++ cs.dropWhile (!endsAuthority default.isSome ·))

section Front

variable {special : Bool} {info : List Char} (hinfo : ∀ c ∈ info, endsAuthority special c = false)

include hinfo

/-- Neither a user nor the at sign behind it ends an authority. -/
private theorem not_endsAuthority_of_mem_user :
    ∀ c ∈ info ++ ['@'], (!endsAuthority special c) = true := by
  intro c hc
  rcases List.mem_append.mp hc with hc | hc
  · rw [hinfo c hc]
    rfl
  · rw [List.mem_singleton.mp hc]
    cases special <;> rfl

/-- A user is in front of the end of an authority. -/
theorem takeWhile_user (cs : List Char) : (info ++ '@' :: cs).takeWhile (!endsAuthority special ·)
    = info ++ '@' :: cs.takeWhile (!endsAuthority special ·) := by
  rw [List.append_cons, List.takeWhile_append_of_pos (not_endsAuthority_of_mem_user hinfo),
    ← List.append_cons]

/-- The end of an authority is behind its user. -/
theorem dropWhile_user (cs : List Char) : (info ++ '@' :: cs).dropWhile (!endsAuthority special ·)
    = cs.dropWhile (!endsAuthority special ·) := by
  rw [List.append_cons, List.dropWhile_append_of_pos (not_endsAuthority_of_mem_user hinfo)]

end Front

/-- **An authority with a user.** The user is the same whatever stands behind it. -/
theorem parseAuthority_of_userinfo {default : Option Nat} {info cs name : List Char}
    {password : Option (List Char)} (hinfo : ∀ c ∈ info, endsAuthority default.isSome c = false)
    (hcs : '@' ∉ cs) (hne : info ≠ []) (hname : name ≠ [])
    (huser : parseUserinfo info = (name, password)) :
    parseAuthority default (info ++ '@' :: cs) =
      (hostBehind default cs).map fun ((host, port), rest) =>
        (⟨name, password, host, port⟩, rest) := by
  -- The at sign is the last one in front of the end of the authority.
  have hlast : '@' ∉ cs.takeWhile (!endsAuthority default.isSome ·) :=
    fun hmem => hcs ((List.takeWhile_prefix _).subset hmem)
  have hsplit := splitAtLast_eq_some_iff.mpr ⟨takeWhile_user hinfo cs, hlast⟩
  rw [parseAuthority, hsplit, dropWhile_user hinfo]
  show (if _ then _ else _) = _
  rw [if_neg fun h => hne h.1, huser]
  show Except.bind (parseHostPort default _) _
      = Except.map _ (Except.bind (parseHostPort default _) _)
  cases parseHostPort default (cs.takeWhile (!endsAuthority default.isSome ·)) with
  | error fault => rfl
  | ok found =>
    obtain ⟨⟨host, port⟩, rest⟩ := found
    -- A user that has a name must have a host.
    show (if host = [] ∧ _ then _ else _) = Except.map _ (if host = [] then _ else _)
    by_cases hhost : host = []
    · rw [if_pos ⟨hhost, .inl hname⟩, if_pos hhost]
      rfl
    · rw [if_neg fun h => hhost h.1, if_neg hhost]
      rfl

/-- **A connection string with a user**, in front of any host. What follows the user is read by
itself, so that two users in front of the same text differ in nothing else. -/
theorem parse_of_userinfo {scheme info rest name : List Char} {password : Option (List Char)}
    (hs : IsScheme scheme) (hfile : scheme.map asciiLower ≠ "file".toList) (hne : info ≠ [])
    (hvisible : ∀ c ∈ info, 0x20 < c.toNat)
    (hinfo : ∀ c ∈ info, endsAuthority (defaultPort? (scheme.map asciiLower)).isSome c = false)
    (hslash : StopsAt isSlash (info ++ '@' :: cleanEnd rest)) (hrest : '@' ∉ rest)
    (hname : name ≠ []) (huser : parseUserinfo info = (name, password)) :
    parse (String.ofList (connectionText scheme info rest)) =
      (hostBehind (defaultPort? (scheme.map asciiLower)) (cleanEnd rest)).map
        fun ((host, port), rest) =>
          assembled (scheme.map asciiLower) ⟨name, password, host, port⟩ rest := by
  rw [parse_connectionText hs hvisible rest hfile hslash,
    parseAuthority_of_userinfo hinfo (fun hmem => hrest (mem_of_mem_cleanEnd hmem)) hne hname huser]
  cases hostBehind (defaultPort? (scheme.map asciiLower)) (cleanEnd rest) <;> rfl

/-- **An authority without an at sign** is a host with its port. -/
theorem parseAuthority_of_host {default : Option Nat} {whole behind : List Char}
    (hwhole : ∀ c ∈ whole, endsAuthority default.isSome c = false) (hat : '@' ∉ whole)
    (hbehind : StopsAt (!endsAuthority default.isSome ·) behind) :
    parseAuthority default (whole ++ behind) =
      (parseHostPort default whole).map fun ((host, port), rest) =>
        (⟨[], none, host, port⟩, rest ++ behind) := by
  have hfront : ∀ c ∈ whole, (!endsAuthority default.isSome c) = true := by
    intro c hc
    rw [hwhole c hc]
    rfl
  -- The authority is the whole text in front of the end, and without an at sign it has no user.
  have htake := takeWhile_append_of_stopsAt hfront hbehind
  have hdrop := dropWhile_append_of_stopsAt hfront hbehind
  have hsplit := splitAtLast_eq_none_iff.mpr hat
  rw [parseAuthority, htake, hdrop, hsplit]
  cases parseHostPort default whole <;> rfl

end Url

end StoreBridge
