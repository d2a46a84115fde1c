import Mathlib.Data.List.Find
import Mathlib.Data.List.TakeWhile
import StoreBridge.Config.Basic
import StoreBridge.Proofs.Url.Password

/-!
# What a masked connection string shows

A password is hidden in one of two ways. In a URL that has one it is replaced by stars. In a text
that is no URL everything between its scheme and its last at sign is, so that it does not matter
where a password begins. A URL that has none is shown as it is.

So a password is shown if it makes the text a URL without one. It does that if it has a sign that
ends the authority, with digits or nothing in front of it; every other password is hidden, and what
is shown does not depend on it (`masked_connection_string`). A message about an unknown backend
holds the masked text and nothing else of the password, because the backend depends on the scheme
(`ofConnectionString?_eq`).
-/

namespace StoreBridge

/-! ### Texts that are no URL -/

/-- A text that has the pattern behind characters that do not begin it. -/
theorem splitAtFirst_append {c : Char} {before : List Char} (h : c ∉ before)
    (pat after : List Char) :
    splitAtFirst (c :: pat) (before ++ c :: (pat ++ after)) = some (before, after) := by
  -- No character in front is the first one of the pattern, so each is passed over.
  induction before with
  | nil =>
    have hprefix : (c :: pat).isPrefixOf (c :: (pat ++ after)) = true :=
      List.isPrefixOf_iff_prefix.mpr (List.prefix_append (c :: pat) after)
    have hdrop : (c :: (pat ++ after)).drop (c :: pat).length = after :=
      @List.drop_left _ (c :: pat) after
    rw [List.nil_append, splitAtFirst, if_pos hprefix, hdrop]
  | cons d before ih =>
    rw [List.mem_cons, not_or] at h
    have hprefix : ¬ (c :: pat).isPrefixOf (d :: (before ++ c :: (pat ++ after))) = true := by
      rw [List.isPrefixOf_iff_prefix, List.cons_prefix_cons]
      exact fun hboth => h.1 hboth.1
    rw [List.cons_append, splitAtFirst, if_neg hprefix, ih h.2]
    rfl

namespace Config

/-- **Everything in front of the last at sign** is hidden, with no regard to what it is. -/
theorem maskUserinfo_connectionText {scheme info rest : List Char} (hscheme : ':' ∉ scheme)
    (hrest : '@' ∉ rest) :
    maskUserinfo (connectionText scheme info rest) = connectionText scheme stars rest := by
  -- The scheme ends at the first colon, and the user and the password at the last at sign.
  have hfirst : splitAtFirst "://".toList (connectionText scheme info rest)
      = some (scheme, info ++ '@' :: rest) :=
    splitAtFirst_append hscheme ['/', '/'] _
  have hlast : splitAtLast '@' (info ++ '@' :: rest) = some (info, rest) :=
    splitAtLast_eq_some_iff.mpr ⟨rfl, hrest⟩
  rw [maskUserinfo, hfirst]
  dsimp only
  rw [hlast]
  show scheme ++ "://".toList ++ stars ++ '@' :: rest = _
  rw [List.append_assoc, List.append_assoc]
  rfl

end Config

/-! ### The backend of a connection string -/

namespace Backend

/-- Every scheme in the list is a name, a colon, and two slashes or none. -/
theorem schemes_form : ∀ entry ∈ schemes,
    entry.1.toList = entry.1.toList.takeWhile (· != ':')
        ++ ':' :: (entry.1.toList.dropWhile (· != ':')).drop 1 ∧
      (entry.1.toList.dropWhile (· != ':')).drop 1 <+: "//".toList := by
  decide

/-- The text behind a scheme and its slashes does not decide about the beginning. -/
theorem isPrefixOf_scheme {name signs scheme : List Char} (hname : ':' ∉ name)
    (hscheme : ':' ∉ scheme)
    (hsigns : signs <+: "//".toList) (rest : List Char) :
    (name ++ ':' :: signs).isPrefixOf (scheme ++ ':' :: '/' :: '/' :: rest)
      = decide (name = scheme) := by
  rw [Bool.eq_iff_iff, List.isPrefixOf_iff_prefix, decide_eq_true_eq]
  -- Both names run up to their first colon, so one in front of the other means that they are the
  -- same.
  have hrun : ∀ cs : List Char, ':' ∉ cs → ∀ c ∈ cs, (c != ':') = true := by
    intro cs hcs c hc
    rw [bne_iff_ne]
    rintro rfl
    exact hcs hc
  constructor
  · rintro ⟨behind, hbehind⟩
    rw [List.append_assoc, List.cons_append] at hbehind
    exact (append_inj_of_run (hrun name hname) (hrun scheme hscheme) (stopsAt_cons (by decide))
      (stopsAt_cons (by decide)) hbehind).1
  · rintro rfl
    obtain ⟨behind, hbehind⟩ := hsigns
    refine ⟨behind ++ rest, ?_⟩
    have hslashes : signs ++ (behind ++ rest) = '/' :: '/' :: rest := by
      rw [← List.append_assoc, hbehind]
      rfl
    rw [List.append_assoc, List.cons_append, hslashes]

/-- Only a letter is changed by lower case, and it becomes a letter. -/
theorem eq_colon_of_asciiLower {c : Char} (h : asciiLower c = ':') : c = ':' := by
  by_cases hletter : 'A' ≤ c ∧ c ≤ 'Z'
  · have hall : ∀ d : Char, d.toNat < 91 → asciiLower d = ':' → d = ':' :=
      forall_char_lt (by decide)
    have hrange : c.toNat ≤ 90 := hletter.2
    exact hall c (by omega) h
  · rwa [asciiLower, if_neg hletter] at h

/-- Small letters bring no colon into a text. -/
theorem not_mem_lower {cs : List Char} (h : ':' ∉ cs) : ':' ∉ lower cs := by
  intro hmem
  obtain ⟨c, hc, hlower⟩ := List.mem_flatMap.mp hmem
  unfold lowerChar at hlower
  split at hlower
  · exact absurd hlower (by decide)
  · split at hlower
    · exact absurd hlower (by decide)
    · obtain rfl := eq_colon_of_asciiLower (List.mem_singleton.mp hlower).symm
      exact h hc

/-- **The backend** depends on the scheme only. -/
theorem ofConnectionString?_eq {scheme : List Char} (hs : Url.IsScheme scheme) (xs ys : List Char) :
    ofConnectionString? (String.ofList (scheme ++ ':' :: '/' :: '/' :: xs)) =
      ofConnectionString? (String.ofList (scheme ++ ':' :: '/' :: '/' :: ys)) := by
  have hlower : ∀ cs, lower (scheme ++ ':' :: '/' :: '/' :: cs)
      = lower scheme ++ ':' :: '/' :: '/' :: lower cs := fun cs => List.flatMap_append
  have hscheme : ':' ∉ lower scheme := not_mem_lower hs.not_mem_colon
  rw [ofConnectionString?, ofConnectionString?, String.toList_ofList, String.toList_ofList, hlower,
    hlower]
  -- Entry by entry of the table of schemes, neither text decides more than its scheme does.
  refine congrArg (Option.map Prod.snd) (List.find?_congr fun entry hentry => ?_)
  obtain ⟨hform, hsigns⟩ := schemes_form entry hentry
  have hname : ':' ∉ entry.1.toList.takeWhile (· != ':') := by
    intro hmem
    have hrun := List.mem_takeWhile_imp hmem
    exact absurd hrun (by decide)
  show entry.1.toList.isPrefixOf _ = entry.1.toList.isPrefixOf _
  rw [hform, isPrefixOf_scheme hname hscheme hsigns, isPrefixOf_scheme hname hscheme hsigns]

end Backend

/-! ### What is shown -/

namespace Config

/-- A configuration whose connection string has a user and a password. -/
def ofPassword (scheme user password rest : List Char) (pool : PoolOptions) : Config :=
  ⟨String.ofList (connectionText scheme (user ++ ':' :: password) rest), pool⟩

section Masked

variable {scheme rest : List Char} (hs : Url.IsScheme scheme) (hrest : '@' ∉ rest)
  (pool : PoolOptions)

include hs hrest in
/-- A text that is no URL shows nothing in front of its last at sign. -/
theorem masked_of_error {info : List Char} {fault : UrlFault}
    (h : Url.parse (String.ofList (connectionText scheme info rest)) = .error fault) :
    (Config.mk (String.ofList (connectionText scheme info rest)) pool).masked
      = String.ofList (connectionText scheme stars rest) := by
  rw [masked, h]
  show String.ofList (maskUserinfo (String.ofList (connectionText scheme info rest)).toList) = _
  rw [String.toList_ofList, maskUserinfo_connectionText hs.not_mem_colon hrest]

/-- A URL without a password shows everything. -/
theorem masked_of_no_password {text : String} {url : Url} (h : Url.parse text = .ok url)
    (hnone : url.password? = none) : (Config.mk text pool).masked = text := by
  rw [masked, h]
  show (if url.password?.isSome then _ else _) = _
  rw [hnone]
  rfl

/-- Stars take the place of the password that a URL has. -/
theorem masked_of_password {text : String} {url : Url} {password : List Char}
    (h : Url.parse text = .ok (url.withPassword password)) (hsome : url.authority.isSome = true) :
    (Config.mk text pool).masked = (url.withPassword stars).text := by
  obtain ⟨a, ha⟩ := Option.isSome_iff_exists.mp hsome
  rw [masked, h]
  show (if (url.withPassword password).password?.isSome then
    ((url.withPassword password).withPassword stars).text else _) = _
  -- What the first replacement put in is there, and the second one overwrites it.
  have hhas : (url.withPassword password).password? = some password := by
    rw [Url.password?, Url.withPassword, ha]
    rfl
  rw [hhas, if_pos (Option.isSome_some), Url.withPassword, Url.withPassword, Url.withPassword, ha]
  rfl

end Masked

/-- **A password is hidden unless it makes a URL without one.** Take a connection string with a
scheme, a user of letters and digits, a password of visible characters other than an at sign, and
any rest without one.

If no sign in the password ends the authority, stars take its place if the rest makes a URL, and the
place of the user and the password otherwise. If a sign does, they take the place of both, except
where the front of the password reads as a host: then the connection string is shown as it is. So
apart from that case, what is shown depends on the password only in whether there is such a sign.

A message about the backend depends on the password no further than what is shown. -/
theorem masked_connection_string {scheme user rest : List Char} (hs : Url.IsScheme scheme)
    (huser : ∀ c ∈ user, c.isAlphanum = true) (huser_ne : user ≠ []) (hrest : '@' ∉ rest)
    (pool : PoolOptions) :
    (∀ password : List Char, password ≠ [] → (∀ c ∈ password, 0x20 < c.toNat ∧ c ≠ '@') →
      (ofPassword scheme user password rest pool).masked =
        if password.any (Url.endsAuthority (Url.takesBackslash (scheme.map asciiLower))) then
          if Url.readsAsHost (scheme.map asciiLower) user password then
            (ofPassword scheme user password rest pool).connectionString
          else String.ofList (connectionText scheme stars rest)
        else
          match Url.parse (String.ofList (connectionText scheme user rest)) with
          | .ok bare => (bare.withPassword stars).text
          | .error _ => String.ofList (connectionText scheme stars rest)) ∧
    ∀ password password' : List Char,
      (ofPassword scheme user password rest pool).masked
        = (ofPassword scheme user password' rest pool).masked →
      (ofPassword scheme user password rest pool).backend
        = (ofPassword scheme user password' rest pool).backend := by
  -- The user stays as it is in a URL, so all depends on the password.
  have hkeeps : ∀ c ∈ user, Url.keepsUserinfo c = true := fun c hc =>
    (standsForItself_of_isUnreserved (isUnreserved_of_isAlphanum (huser c hc))).userinfo
  refine ⟨fun password hpassword_ne hpassword => ?_, fun password password' hmasked => ?_⟩
  · -- By the signs: one that ends the authority splits the password, and then the text behind it is
    -- no longer part of the credentials.
    cases hsign : password.any (Url.endsAuthority (Url.takesBackslash (scheme.map asciiLower))) with
    | true =>
      have hsplit := Url.parse_of_split hs hkeeps huser_ne hpassword rest hsign
      rw [if_pos rfl]
      split at hsplit
      · next hreads =>
        obtain ⟨url, hurl, hnone⟩ := hsplit
        -- The front of the password is taken for a host, so the URL has no password and is shown
        -- whole.
        rw [if_pos hreads]
        exact masked_of_no_password pool hurl hnone
      · next hreads =>
        obtain ⟨fault, hfault⟩ := hsplit
        -- It is no host, nothing is parsed, and the fallback hides all up to the at sign.
        rw [if_neg hreads]
        exact masked_of_error hs hrest pool hfault
    | false =>
      rw [if_neg Bool.false_ne_true]
      -- With no such sign the password is read as one, or the rest makes no URL with any password.
      rcases Url.parse_of_clear hs hkeeps huser_ne hpassword hrest hpassword_ne hsign with
        ⟨bare, hbare, hauthority, hurl⟩ | ⟨⟨fault, hbare⟩, fault', hurl⟩
      · rw [hbare]
        exact masked_of_password pool hurl hauthority
      · rw [hbare]
        exact masked_of_error hs hrest pool hurl
  · -- The backend reads the scheme, which the two strings share.
    have hbackend :
        Backend.ofConnectionString? (ofPassword scheme user password rest pool).connectionString
          = Backend.ofConnectionString?
              (ofPassword scheme user password' rest pool).connectionString :=
      Backend.ofConnectionString?_eq hs _ _
    unfold Config.backend
    rw [hmasked, hbackend]

/-- A connection string of a user of MySQL. -/
def rootConfig (password : String) : Config :=
  ofPassword "mysql".toList "root".toList password.toList "db/app".toList {}

/-- A slash in the password hides the user as well, and other signs do not. -/
theorem rootConfig_masked :
    Url.IsScheme "mysql".toList ∧ '@' ∉ "db/app".toList ∧
    (rootConfig "se/cret").masked = "mysql://****@db/app" ∧
    ∃ bare, Url.parse "mysql://root@db/app" = .ok bare ∧
      (rootConfig "s:cret").masked = (bare.withPassword stars).text := by
  have hscheme : Url.IsScheme "mysql".toList := ⟨rfl, List.all_iff_forall_prop.mp (by decide)⟩
  have huser : ∀ c ∈ "root".toList, c.isAlphanum = true := List.all_iff_forall_prop.mp (by decide)
  have hrest : '@' ∉ "db/app".toList := by decide
  obtain ⟨hmasked, -⟩ := masked_connection_string hscheme huser (by decide) hrest {}
  -- One password with a sign that ends the authority, one with a colon only.
  have hslash := hmasked "se/cret".toList (by decide) (List.all_iff_forall_prop.mp (by decide))
  have hcolon := hmasked "s:cret".toList (by decide) (List.all_iff_forall_prop.mp (by decide))
  exact ⟨hscheme, hrest, hslash, _, rfl, hcolon⟩

/-- Passwords of digits and a slash are shown, so there are no two strings that are shown for
all. -/
theorem rootConfig_shown :
    (rootConfig "12/34").masked = "mysql://root:12/34@db/app" ∧
    ¬ ∃ first second : String, ∀ password : String, password ≠ "" →
      (∀ c ∈ password.toList, 0x20 < c.toNat ∧ c.toNat < 0x7f ∧ c ≠ '@') →
      (rootConfig password).masked = first ∨ (rootConfig password).masked = second := by
  -- Three passwords that are shown as they are.
  have hone : (rootConfig "12/34").masked = "mysql://root:12/34@db/app" := rfl
  have htwo : (rootConfig "34/56").masked = "mysql://root:34/56@db/app" := rfl
  have hthree : (rootConfig "56/78").masked = "mysql://root:56/78@db/app" := rfl
  refine ⟨hone, ?_⟩
  rintro ⟨first, second, hall⟩
  have h1 := hall "12/34" (by decide) (List.all_iff_forall_prop.mp (by decide))
  have h2 := hall "34/56" (by decide) (List.all_iff_forall_prop.mp (by decide))
  have h3 := hall "56/78" (by decide) (List.all_iff_forall_prop.mp (by decide))
  rw [hone] at h1
  rw [htwo] at h2
  rw [hthree] at h3
  -- Two of the three would have to be the same string.
  rcases h1 with rfl | rfl <;> rcases h2 with h2 | h2 <;> rcases h3 with h3 | h3 <;>
    first
      | exact absurd h2 (by decide)
      | exact absurd h3 (by decide)
      | exact absurd (h2.trans h3.symm) (by decide)

end Config

end StoreBridge
