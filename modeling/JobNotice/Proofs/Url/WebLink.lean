import JobNotice.Proofs.Text.Trimming
import JobNotice.Url.Basic

/-!
# Links that lead to the web

A link is checked by reading it as a URL, but it is the text of the link that is put into a
document. A browser that follows it reads that text anew: it drops controls and blanks in front,
and tabs and line breaks everywhere, and takes what stands before the first colon for the scheme.
What it reads begins with what the check has read, and goes on with nothing but the controls and
blanks that the check has dropped at the end. So the browser finds the scheme and the host that have
been checked.

## Main definitions

* `Url.browserText` — what a browser reads of a link
* `Url.hostText` — the host that follows the colon of a web scheme, as it is written
* `Url.LeadsToWeb` — a link that leads to a host of the web, in the eyes of a browser

## Main results

* `Url.exists_browserText_eq` — a browser reads what is checked, and what is dropped at the end
* `Url.leadsToWeb_of_checkLink` — a link that is accepted leads to the web
* `Url.LeadsToWeb.scheme` — such a link has no other scheme
-/

namespace JobNotice.Url

/-! ### What a browser reads -/

/-- What a browser reads of a link. Controls and blanks in front do not count, and neither do tabs
and line breaks anywhere. -/
def browserText (s : List Char) : List Char :=
  (s.dropWhile isAround).filter fun c => !isIgnored c

/-- What follows the user of an authority. -/
def afterUser (s : List Char) : List Char :=
  (splitUserinfo (s.takeWhile fun c => !endsAuthority .web c)
    (s.dropWhile fun c => !endsAuthority .web c)).2

/-- The host that follows the colon of a web scheme, as it is written. There may be any number of
slashes before it. -/
def hostText (s : List Char) : List Char :=
  (splitHost .web false (afterUser (s.dropWhile fun c => c = '/' || c = '\\'))).1

def Host.text : Host → List Char
  | .domain name => name
  | .ipv4 text => text
  | .ipv6 text => text
  | .verbatim name => name

/-- A link that leads to a host of the web, in the eyes of a browser. -/
def LeadsToWeb (s : List Char) : Prop :=
  ∃ scheme rest host, browserText s = scheme ++ ':' :: rest ∧
    (scheme.map Char.toLower = "http".toList ∨ scheme.map Char.toLower = "https".toList) ∧
    hostText rest ≠ [] ∧
    parse s = .ok ⟨scheme.map Char.toLower, some host⟩ ∧ host.text ≠ []

variable {s trail : List Char}

/-- A browser reads what is checked, and what is dropped at the end. -/
theorem exists_browserText_eq (s : List Char) :
    ∃ trail, browserText s = significant s ++ trail ∧ ∀ c ∈ trail, isAround c = true := by
  obtain ⟨dropped, hdropped, haround⟩ :=
    Text.exists_dropEndWhile_append isAround (s.dropWhile isAround)
  refine ⟨dropped.filter fun c => !isIgnored c, ?_, fun c hc => ?_⟩
  · rw [browserText, significant, ← List.filter_append, ← hdropped]
  · exact haround c (List.mem_of_mem_filter hc)

/-! ### Controls and blanks at the end -/

theorem ne_of_isAround {c d : Char} (hc : isAround c = true) (hd : isAround d = false) : c ≠ d := by
  rintro rfl
  rw [hc] at hd
  exact absurd hd (by decide)

theorem endsAuthority_of_isAround {c : Char} (hc : isAround c = true) :
    endsAuthority .web c = false := by
  have hslash := ne_of_isAround hc (d := '/') (by decide)
  have hquery := ne_of_isAround hc (d := '?') (by decide)
  have hhash := ne_of_isAround hc (d := '#') (by decide)
  have hback := ne_of_isAround hc (d := '\\') (by decide)
  simp [endsAuthority, hslash, hquery, hhash, hback]

theorem dropWhile_slash_append (htrail : ∀ c ∈ trail, isAround c = true) (s : List Char) :
    (s ++ trail).dropWhile (fun c => c = '/' || c = '\\')
      = s.dropWhile (fun c => c = '/' || c = '\\') ++ trail := by
  rw [List.dropWhile_append]
  split
  · rename_i hempty
    rw [List.isEmpty_iff.mp hempty, List.nil_append]
    cases trail with
    | nil => rfl
    | cons c trail =>
      have hc := htrail c (List.mem_cons_self ..)
      refine List.dropWhile_cons_of_neg ?_
      simp [ne_of_isAround hc (d := '/') (by decide), ne_of_isAround hc (d := '\\') (by decide)]
  · rfl

/-- What stands after the last `@` is the whole when there is none. -/
theorem splitUserinfo_snd (authority rest : List Char) :
    (splitUserinfo authority rest).2
      = (authority.reverse.takeWhile (· != '@')).reverse ++ rest := by
  rw [splitUserinfo]
  split
  · rfl
  · rename_i hnone
    have hall : ∀ c ∈ authority.reverse, (c != '@') = true := by
      intro c hc
      have hne : c ≠ '@' := by
        rintro rfl
        exact hnone (by simpa using hc)
      simpa using hne
    rw [List.takeWhile_eq_self_iff.mpr hall, List.reverse_reverse]

/-- Controls and blanks at the end neither end an authority nor a user. -/
theorem afterUser_append (htrail : ∀ c ∈ trail, isAround c = true) (s : List Char) :
    afterUser (s ++ trail) = afterUser s ++ trail := by
  have hends : ∀ c ∈ trail, (!endsAuthority .web c) = true := by
    intro c hc
    rw [endsAuthority_of_isAround (htrail c hc)]
    rfl
  have hat : ∀ c ∈ trail.reverse, (c != '@') = true := by
    intro c hc
    exact bne_iff_ne.mpr (ne_of_isAround (htrail c (List.mem_reverse.mp hc)) (by decide))
  rw [afterUser, afterUser, splitUserinfo_snd, splitUserinfo_snd]
  by_cases hs : ∀ c ∈ s, (!endsAuthority .web c) = true
  · -- the authority goes on to the end
    rw [List.takeWhile_append_of_pos hs, List.dropWhile_append_of_pos hs,
      List.takeWhile_eq_self_iff.mpr hends, List.takeWhile_eq_self_iff.mpr hs,
      Text.dropWhile_eq_nil_of_all hends, Text.dropWhile_eq_nil_of_all hs, List.reverse_append,
      List.takeWhile_append_of_pos hat, List.reverse_append, List.reverse_reverse, List.append_nil,
      List.append_nil]
  · have hne : s.dropWhile (fun c => !endsAuthority .web c) ≠ [] :=
      fun hnil => hs (Text.all_of_dropWhile_eq_nil hnil)
    have hlength : (s.takeWhile fun c => !endsAuthority .web c).length ≠ s.length := by
      intro hlength
      exact hs (List.takeWhile_eq_self_iff.mp ((List.takeWhile_prefix _).eq_of_length hlength))
    rw [List.takeWhile_append, if_neg hlength, List.dropWhile_append, if_neg (by simpa using hne),
      List.append_assoc]

/-- A longer text has a longer host. -/
theorem splitHost_prefix (kind : SchemeKind) (bracket : Bool) (s t : List Char) :
    (splitHost kind bracket s).1 <+: (splitHost kind bracket (s ++ t)).1 := by
  induction s generalizing bracket with
  | nil => exact List.nil_prefix
  | cons c s ih =>
    rw [List.cons_append, splitHost, splitHost]
    split
    · exact List.nil_prefix
    · exact List.cons_prefix_cons.mpr ⟨rfl, ih _⟩

theorem hostText_append_ne_nil (htrail : ∀ c ∈ trail, isAround c = true) (h : hostText s ≠ []) :
    hostText (s ++ trail) ≠ [] := by
  rw [hostText, dropWhile_slash_append htrail, afterUser_append htrail]
  intro hnil
  have hbegins := splitHost_prefix .web false
    (afterUser (s.dropWhile fun c => c = '/' || c = '\\')) trail
  rw [hnil] at hbegins
  exact h (List.prefix_nil.mp hbegins)

/-! ### What is checked -/

theorem splitScheme_eq_some {scheme rest : List Char} (h : splitScheme s = some (scheme, rest)) :
    ∃ written, s = written ++ ':' :: rest ∧ scheme = written.map Char.toLower := by
  unfold splitScheme at h
  split at h
  · simp at h
  rename_i c tail
  split at h
  · split at h
    · rename_i hrest
      obtain ⟨rfl, rfl⟩ := Prod.mk.inj (Option.some.inj h)
      refine ⟨(c :: tail).takeWhile isSchemeChar, ?_, rfl⟩
      rw [← hrest, List.takeWhile_append_dropWhile]
    · simp at h
  · simp at h

theorem text_ne_nil_of_webHost {text : List Char} {host : Host} (h : webHost text = .ok host) :
    host.text ≠ [] := by
  rw [webHost] at h
  split at h
  · rename_i hbracket
    rw [bracketHost] at h
    split at h
    · obtain rfl := Except.ok.inj h
      rintro (rfl : text = [])
      simp at hbracket
    · simp at h
  split at h
  · simp at h
  split at h
  · simp at h
  rename_i hne
  split at h
  · split at h
    · obtain rfl := Except.ok.inj h
      simpa [Host.text] using hne
    · simp at h
  · obtain rfl := Except.ok.inj h
    simpa [Host.text] using hne

/-- The authority of a web scheme has a host, and it is not empty as it is written. -/
theorem authorityHost_web {found : Option Host} (h : authorityHost .web s = .ok found) :
    ∃ host, found = some host ∧ (splitHost .web false (afterUser s)).1 ≠ [] ∧
      webHost (splitHost .web false (afterUser s)).1 = .ok host := by
  unfold authorityHost at h
  rw [afterUser]
  dsimp only at h
  generalize splitUserinfo (s.takeWhile fun c => !endsAuthority .web c)
    (s.dropWhile fun c => !endsAuthority .web c) = parts at h ⊢
  split at h
  · cases h
  split at h
  · cases h
  rename_i htext
  rw [if_neg (by decide)] at h
  cases hhost : webHost (splitHost .web false parts.2).1 with
  | error e =>
    rw [hhost] at h
    cases h
  | ok host =>
    refine ⟨host, ?_, by simpa using htext, rfl⟩
    rw [hhost] at h
    dsimp only [Except.map, bind, Except.bind, pure] at h
    rw [if_neg (by simp)] at h
    simp only [Option.isNone_some, Bool.false_and, Bool.false_eq_true, if_false] at h
    -- a port that is wrong is an error
    split at h
    · split at h
      · cases h
      · exact (Except.ok.inj h).symm
    · exact (Except.ok.inj h).symm

theorem schemeKind_web {scheme : List Char}
    (h : scheme = "http".toList ∨ scheme = "https".toList) : schemeKind scheme = .web := by
  rcases h with rfl | rfl <;> decide

theorem eq_ok_of_map_eq_ok {ε α β : Type} {f : α → β} {x : Except ε α} {b : β}
    (h : x.map f = .ok b) : ∃ a, x = .ok a ∧ f a = b := by
  cases x with
  | error e => simp [Except.map] at h
  | ok a => exact ⟨a, rfl, Except.ok.inj h⟩

/-- The scheme of a URL stands before its first colon. -/
theorem splitScheme_of_parse {url : Parsed} (h : parse s = .ok url) :
    ∃ rest, splitScheme (significant s) = some (url.scheme, rest) := by
  rw [parse] at h
  split at h
  · simp at h
  rename_i scheme rest hsplit
  refine ⟨rest, ?_⟩
  rw [hsplit]
  split at h
  · obtain ⟨host, -, rfl⟩ := eq_ok_of_map_eq_ok h
    rfl
  · obtain ⟨host, -, rfl⟩ := eq_ok_of_map_eq_ok h
    rfl
  split at h
  · obtain ⟨host, -, rfl⟩ := eq_ok_of_map_eq_ok h
    rfl
  · obtain rfl := Except.ok.inj h
    rfl

/-- A URL of a web scheme has a host. -/
theorem parse_web {url : Parsed} (h : parse s = .ok url)
    (hscheme : url.scheme = "http".toList ∨ url.scheme = "https".toList) :
    ∃ written rest host, significant s = written ++ ':' :: rest ∧
      url = ⟨written.map Char.toLower, some host⟩ ∧ hostText rest ≠ [] ∧ host.text ≠ [] := by
  obtain ⟨rest, hsplit⟩ := splitScheme_of_parse h
  obtain ⟨written, hwritten, hlower⟩ := splitScheme_eq_some hsplit
  simp only [parse, hsplit, schemeKind_web hscheme] at h
  obtain ⟨found, hfound, hurl⟩ := eq_ok_of_map_eq_ok h
  obtain ⟨host, rfl, htext, hhost⟩ := authorityHost_web hfound
  exact ⟨written, rest, host, hwritten, by rw [← hurl, hlower], htext, text_ne_nil_of_webHost hhost⟩

theorem checkLink_eq_ok {link : String} :
    checkLink link = .ok () ↔ ∃ url, parse link.toList = .ok url ∧
      (url.scheme = "http".toList ∨ url.scheme = "https".toList) ∧ url.host.isSome := by
  have hname (scheme : List Char) (name : String) :
      String.ofList scheme = name ↔ scheme = name.toList := by
    rw [← String.toList_inj, String.toList_ofList]
  rw [checkLink]
  cases parse link.toList with
  | error e => simp
  | ok url =>
    simp only [hname, Except.ok.injEq, exists_eq_left']
    split
    · split <;> simp_all
    · simp_all

/-! ### Links that are accepted -/

/-- **A link that is accepted leads to the web.** -/
theorem leadsToWeb_of_checkLink {link : String} (h : checkLink link = .ok ()) :
    LeadsToWeb link.toList := by
  obtain ⟨url, hparse, hscheme, -⟩ := checkLink_eq_ok.mp h
  obtain ⟨written, rest, host, hsignificant, rfl, htext, hhost⟩ := parse_web hparse hscheme
  obtain ⟨trail, hbrowser, htrail⟩ := exists_browserText_eq link.toList
  refine ⟨written, rest ++ trail, host, ?_, hscheme, hostText_append_ne_nil htrail htext, hparse,
    hhost⟩
  rw [hbrowser, hsignificant, List.append_assoc, List.cons_append]

/-- A line break within a scheme does not hide it. -/
example : checkLink "\x01java\nscript://[::1]/" = .error (.wrongScheme "javascript") := by decide

/-- A text has one scheme before its first colon. -/
theorem eq_of_append_colon {scheme scheme' rest rest' : List Char} (hscheme : ':' ∉ scheme)
    (hscheme' : ':' ∉ scheme') (h : scheme ++ ':' :: rest = scheme' ++ ':' :: rest') :
    scheme = scheme' := by
  have htake {t : List Char} (ht : ':' ∉ t) (r : List Char) :
      (t ++ ':' :: r).takeWhile (· != ':') = t := by
    rw [List.takeWhile_append_of_pos fun c hc => bne_iff_ne.mpr (ne_of_mem_of_not_mem hc ht),
      List.takeWhile_cons_of_neg (by simp), List.append_nil]
  rw [← htake hscheme rest, h, htake hscheme']

/-- **No other scheme is read.** A browser takes a link that leads to the web for nothing else. -/
theorem LeadsToWeb.scheme (h : LeadsToWeb s) {scheme rest : List Char}
    (hread : browserText s = scheme ++ ':' :: rest) (hcolon : ':' ∉ scheme) :
    scheme.map Char.toLower = "http".toList ∨ scheme.map Char.toLower = "https".toList := by
  obtain ⟨web, rest', -, hbrowser, hweb, -⟩ := h
  have hwebcolon : ':' ∉ web := by
    intro hmem
    have hlower := List.mem_map_of_mem (f := Char.toLower) hmem
    rcases hweb with hweb | hweb <;> rw [hweb] at hlower <;> exact absurd hlower (by decide)
  rw [eq_of_append_colon hcolon hwebcolon (hread.symm.trans hbrowser)]
  exact hweb

end JobNotice.Url
