import JobNotice.Proofs.Notice.Faithful
import JobNotice.Proofs.Notice.Markup
import JobNotice.Proofs.Notice.Normalization
import JobNotice.Proofs.Text.Attributes
import JobNotice.Proofs.Url.WebLink

/-!
# The links of a document

The links of an HTML document are the logo, if there is one, the submission, the documentation and
the home page, and the address of the support. Each is written escaped into its own attribute, and
nothing else that the document holds brings an attribute that a browser follows: the values between
tags are escaped, and the tags of the layout and of the slots are known. What is read back from the
attributes are the values themselves, and all but the last have been accepted as links to the web.

## Main definitions

* `Notice.webLinks` — the links of a context, in the order of the document
* `Notice.slotLinks` — the links of a slot

## Main results

* `Notice.links_htmlSlot` — a slot has its links
* `Notice.links_html` — the document has those of its slots
* `Notice.linkValues_html` — the links of a document, and where they lead
-/

namespace JobNotice.Notice

open Job (Stage)
open Layout (Slot builtInHtml printedOf slotsOf)
open Text (Links Passes escapeHtml htmlText linkValues unescapeHtml)
open Url (LeadsToWeb browserText checkLink)

/-! ### Links of a context -/

/-- The links of a context, in the order of the document. -/
def webLinks (c : Context) : List String :=
  c.logoUrl.toList ++ [c.links.submissionUrl, c.links.docsUrl, c.links.baseUrl]

/-- The links of a slot. -/
def slotLinks (c : Context) (support : String) : Slot → List String
  | .logo => c.logoUrl.toList
  | .action => [c.links.submissionUrl]
  | .footer => [c.links.docsUrl, c.links.baseUrl, "mailto:" ++ support]
  | .title | .statusBanner | .greeting | .jobDetails | .stages | .branchContent => []

/-- A link as it is written in an attribute. -/
def writtenLink (url : String) : List Char := escapeHtml url.toList

/-- An escaped value does not end its attribute. -/
theorem quote_not_mem_escapeHtml (s : List Char) : '"' ∉ escapeHtml s :=
  fun hmem => absurd (Text.not_isMarkup_of_mem_escapeHtml hmem) (by decide)

/-- A link that is written into an attribute. -/
theorem passes_link (name : List Char) (url : String) {place place' : Text.Place}
    {opening closing t : List Char} {links : List (List Char)}
    (hname : Text.isLinkName name = true) (hopen : Passes place opening (.quoted name '"' []) [])
    (hclose : Text.linksOf (Text.scan .between closing).2 = [])
    (ht : Passes (Text.scan .between closing).1 t place' links) :
    Passes place ((String.ofList opening).toList ++
      (escapeHtml url.toList ++ ((String.ofList ('"' :: closing)).toList ++ t))) place'
      (writtenLink url :: links) := by
  have hlink := Passes.link name [] hname (quote_not_mem_escapeHtml url.toList) hopen hclose ht
  rwa [List.nil_append] at hlink

/-! ### Slots without links -/

variable {c : Context} {product support : String}

theorem links_htmlText (s : String) : Links (htmlText s).toList [] := by
  rw [Text.toList_htmlText]
  exact Links.escaped _

theorem links_title : Links (htmlSlot c product support .title).toList [] := by
  unfold htmlSlot
  rw [String.toList_append, String.toList_append]
  refine ((links_htmlText _).append_left (Links.string (by decide))).append_left ?_
  cases c.branch <;> exact Links.string (by decide)

theorem links_statusBanner : Links (htmlSlot c product support .statusBanner).toList [] := by
  unfold htmlSlot
  simp only [String.toList_append, List.append_assoc]
  -- the class of the banner stands in an attribute
  cases c.branch <;>
    exact Passes.string_append (by decide) <| Passes.string_append (by decide) <|
      Passes.string_append (by decide) <| Passes.string_append (by decide) <|
      Passes.string (by decide)

theorem links_greeting : Links (htmlSlot c product support .greeting).toList [] := by
  unfold htmlSlot Branch.sentence
  cases c.branch <;>
    simp only [String.toList_append, Text.toList_htmlText, List.append_assoc] <;>
    exact (Links.string (by decide)).append_left <| (Links.escaped _).append_left <|
      (Links.string (by decide)).append_left <| (Links.string (by decide)).append_left <|
      (Links.escaped _).append_left <| (Links.string (by decide)).append_left <|
      (Links.string (by decide)).append_left <| (Links.string (by decide)).append_left <|
      Links.string (by decide)

/-- A row has no links when its value has none. -/
theorem links_htmlRow {label value : String} (hlabel : Links label.toList [])
    (hvalue : Links value.toList []) : Links (htmlRow label value).toList [] := by
  rw [toList_htmlRow]
  exact (Links.string (by decide)).append_left <| hlabel.append_left <|
    (Links.string (by decide)).append_left <| hvalue.append_left <| Links.string (by decide)

/-- The label of the row of an optional value. -/
theorem links_optionalLabel {label : String} (value : Option String)
    (hlabel : Links label.toList []) :
    ∀ r ∈ (match value with
      | none => []
      | some v => [(label, v)] : List (String × String)), Links r.1.toList [] := by
  cases value with
  | none => exact List.forall_mem_nil _
  | some v => exact List.forall_mem_singleton.mpr hlabel

theorem links_jobDetails : Links (htmlSlot c product support .jobDetails).toList [] := by
  have hid : Links ("<code>" ++ htmlText c.jobId ++ "</code>").toList [] := by
    rw [String.toList_append, String.toList_append, Text.toList_htmlText, List.append_assoc]
    exact Links.enclosed _ (by decide) (by decide)
  have hlabels : ∀ r ∈ detailRows c, Links r.1.toList [] := by
    refine List.forall_mem_cons.mpr ⟨Links.string (by decide), ?_⟩
    refine List.forall_mem_append.mpr ⟨List.forall_mem_append.mpr ⟨?_, ?_⟩, ?_⟩ <;>
      exact links_optionalLabel _ (Links.string (by decide))
  have hrow : ∀ r ∈ detailRows c, Links (htmlRow r.1 (htmlText r.2)).toList [] :=
    fun r hr => links_htmlRow (hlabels r hr) (links_htmlText r.2)
  unfold htmlSlot htmlDetails
  rw [String.toList_append, String.toList_append, String.toList_append, String.toList_join,
    List.flatMap_map, List.append_assoc, List.append_assoc]
  exact (Links.string (by decide)).append_left <|
    (links_htmlRow (Links.string (by decide)) hid).append_left <|
    (Links.gathers.flatMap_nil hrow).append_left <| Links.string (by decide)

/-! ### The stages and the content of the branch -/

theorem links_htmlStage (s : Stage) : Links (htmlStage s).toList [] := by
  rw [toList_htmlStage]
  exact Links.enclosed _ (by decide) (by decide)

theorem links_stages : Links (htmlSlot c product support .stages).toList [] := by
  unfold htmlSlot
  cases c.stages with
  | none => exact Links.nil
  | some stages =>
    unfold htmlStages
    rw [String.toList_append, String.toList_append, String.toList_join, List.flatMap_map]
    exact ((Links.string (by decide)).append_left
      (Links.gathers.flatMap_nil fun s _ => links_htmlStage s)).append_left (Links.string (by decide))

theorem links_htmlList (items : List String) : Links (htmlList items).toList [] := by
  have hitem (i : String) : Links ("\n<li>" ++ htmlText i ++ "</li>").toList [] := by
    rw [String.toList_append, String.toList_append, Text.toList_htmlText, List.append_assoc]
    exact Links.enclosed _ (by decide) (by decide)
  unfold htmlList
  rw [String.toList_append, String.toList_append, String.toList_join, List.flatMap_map]
  exact ((Links.string (by decide)).append_left
    (Links.gathers.flatMap_nil fun i _ => hitem i)).append_left (Links.string (by decide))

theorem links_htmlError (message : String) : Links (htmlError message).toList [] := by
  unfold htmlError
  rw [String.toList_append, String.toList_append, Text.toList_htmlText, List.append_assoc]
  exact Links.enclosed _ (by decide) (by decide)

theorem links_branchContent : Links (htmlSlot c product support .branchContent).toList [] := by
  unfold htmlSlot
  cases c.outcome with
  | success =>
    simp only [String.toList_append]
    exact (Links.string (by decide)).append_left (links_htmlList _)
  | failure message =>
    simp only [String.toList_append]
    refine (Links.append_left ?_ (Links.string (by decide))).append_left (links_htmlList _)
    cases message with
    | none => exact Links.nil
    | some m => exact links_htmlError m

/-! ### Slots with links -/

theorem links_logo :
    Links (htmlSlot c product support .logo).toList (c.logoUrl.toList.map writtenLink) := by
  unfold htmlSlot
  cases c.logoUrl with
  | none => exact Links.nil
  | some url =>
    simp only [String.toList_append, Text.toList_htmlText, List.append_assoc]
    refine passes_link ['s', 'r', 'c'] url (by decide) (by decide) (by decide) ?_
    -- the product stands in another attribute
    exact (Passes.quoted _ _ (quote_not_mem_escapeHtml _)).append (Passes.string ⟨rfl, rfl⟩)

theorem links_action :
    Links (htmlSlot c product support .action).toList [writtenLink c.links.submissionUrl] := by
  unfold htmlSlot
  simp only [String.toList_append, Text.toList_htmlText, List.append_assoc]
  refine passes_link ['h', 'r', 'e', 'f'] _ (by decide) (by decide) (by decide) ?_
  cases c.branch <;> exact Passes.string_append (by decide) (Passes.string (by decide))

theorem links_htmlLink (url : String) {label : String} (hlabel : Links label.toList []) :
    Links (htmlLink url label).toList [writtenLink url] := by
  unfold htmlLink
  simp only [String.toList_append, Text.toList_htmlText, List.append_assoc]
  refine passes_link ['h', 'r', 'e', 'f'] _ (by decide) (by decide) (by decide) ?_
  exact hlabel.append_left (Links.string (by decide))

theorem writtenLink_mailto (support : String) : writtenLink ("mailto:" ++ support)
    = ['m', 'a', 'i', 'l', 't', 'o', ':'] ++ escapeHtml support.toList := by
  rw [writtenLink, String.toList_append, Text.escapeHtml_append]
  rfl

theorem links_intText (i : Int) : Links (Decimal.intText i).toList [] := by
  refine Passes.quiet fun hmem => ?_
  rcases Decimal.mem_intText hmem with h | h
  · exact absurd h (by decide)
  · exact absurd h (by decide)

theorem links_footer : Links (htmlSlot c product support .footer).toList
    [writtenLink c.links.docsUrl, writtenLink c.links.baseUrl,
      writtenLink ("mailto:" ++ support)] := by
  have hproduct := links_htmlText product
  have hdocs : Links (htmlLink c.links.docsUrl "Documentation").toList
      [writtenLink c.links.docsUrl] :=
    links_htmlLink _ (Links.string (by decide))
  have hbase := links_htmlLink c.links.baseUrl hproduct
  rw [writtenLink_mailto]
  unfold htmlSlot htmlFooter
  simp only [String.toList_append, List.append_assoc]
  refine (Links.string (by decide)).append_left <| hdocs.cons <|
    (Links.string (by decide)).append_left <| hbase.cons <|
    (Links.string (by decide)).append_left ?_
  -- the address of the support, as a link and as a text
  rw [Text.toList_htmlText]
  refine Passes.link ['h', 'r', 'e', 'f'] _ (by decide) (quote_not_mem_escapeHtml _) (by decide)
    (by decide) ?_
  refine (Links.escaped _).append_left <| (Links.string (by decide)).append_left ?_
  -- the year
  exact (Links.string (by decide)).append_left <| (links_intText _).append_left <|
    (Links.string (by decide)).append_left <| hproduct.append_left <| Links.string (by decide)

/-- **A slot has its links.** -/
theorem links_htmlSlot (c : Context) (product support : String) (slot : Slot) :
    Links (htmlSlot c product support slot).toList
      ((slotLinks c support slot).map writtenLink) := by
  cases slot with
  | title => exact links_title
  | logo => exact links_logo
  | statusBanner => exact links_statusBanner
  | greeting => exact links_greeting
  | jobDetails => exact links_jobDetails
  | stages => exact links_stages
  | branchContent => exact links_branchContent
  | action => exact links_action
  | footer => exact links_footer

/-! ### The layout -/

/-- **The document has the links of its slots.** -/
theorem links_html (c : Context) (product support : String) :
    Links (printedOf (htmlSlot c product support) builtInHtml)
      ((webLinks c ++ ["mailto:" ++ support]).map writtenLink) := by
  have hslots : (webLinks c ++ ["mailto:" ++ support]).map writtenLink
      = (slotsOf builtInHtml).flatMap fun slot => (slotLinks c support slot).map writtenLink := by
    rw [Layout.slotsOf_builtInHtml]
    simp [webLinks, slotLinks]
  rw [hslots]
  refine Links.gathers.printedOf (links_htmlSlot c product support) ?_
  repeat' refine List.forall_mem_cons.mpr ⟨?_, ?_⟩
  -- a line feed takes no part in a tag, so each line counts for itself
  all_goals first
    | exact List.forall_mem_nil _
    | refine Links.gathers.nil_of_lines (Passes.quiet (by decide)) ?_
  repeat' refine List.forall_mem_cons.mpr ⟨?_, ?_⟩
  all_goals first
    | exact Links.quiet_string (by decide)
    | exact Links.string (by decide)
    | exact List.forall_mem_nil _

/-! ### Where the links lead -/

theorem checkLink_of_mem_webLinks {url : String} (h : c.WellFormed) (hurl : url ∈ webLinks c) :
    checkLink url = .ok () := by
  rw [webLinks, List.mem_append] at hurl
  rcases hurl with hlogo | hlink
  · exact (h.logoUrl url (Option.mem_toList.mp hlogo)).checkLink
  · simp only [List.mem_cons, List.not_mem_nil, or_false] at hlink
    rcases hlink with rfl | rfl | rfl
    · exact h.submissionUrl.checkLink
    · exact h.docsUrl.checkLink
    · exact h.baseUrl.checkLink

/-- A link is read back from its attribute. -/
theorem unescapeHtml_writtenLink (url : String) : unescapeHtml (writtenLink url) = url.toList :=
  Text.unescapeHtml_escapeHtml url.toList

/-- **The links of a document lead to the web.** They are those of the context and the address of
the support, in this order, each as it was given after it has been read back. A browser takes the
links of the context for links to the web, and the same holds of every link that is accepted: there
is no other scheme to be read from it. -/
theorem linkValues_html {m : Json.Members} (h : Context.ofAttributes m = .ok c)
    (product support : String) :
    ∃ d, renderBuiltIn product support c = .ok d ∧
      (Text.scan .text d.html.toList).1 = .text ∧
      linkValues d.html.toList = (webLinks c ++ ["mailto:" ++ support]).map writtenLink ∧
      (linkValues d.html.toList).map unescapeHtml
        = (webLinks c ++ ["mailto:" ++ support]).map String.toList ∧
      (∀ url ∈ webLinks c, LeadsToWeb url.toList) ∧
      ∀ url, checkLink url = .ok () → LeadsToWeb url.toList ∧
        ∀ scheme rest, browserText url.toList = scheme ++ ':' :: rest → ':' ∉ scheme →
          scheme.map Char.toLower = "http".toList ∨ scheme.map Char.toLower = "https".toList := by
  have hwellFormed := wellFormed_of_describes (ofAttributes_eq_ok.mp h)
  have hlinks : Links (builtInDocument product support c).html.toList
      ((webLinks c ++ ["mailto:" ++ support]).map writtenLink) := by
    rw [builtInDocument, String.toList_ofList]
    exact links_html c product support
  have hread : ((webLinks c ++ ["mailto:" ++ support]).map writtenLink).map unescapeHtml
      = (webLinks c ++ ["mailto:" ++ support]).map String.toList := by
    rw [List.map_map]
    refine List.map_congr_left fun url _ => ?_
    rw [Function.comp_apply, unescapeHtml_writtenLink]
  refine ⟨_, renderBuiltIn_eq product support c, hlinks.1, hlinks.linkValues_eq, ?_, ?_, ?_⟩
  · rw [hlinks.linkValues_eq, hread]
  · intro url hurl
    exact Url.leadsToWeb_of_checkLink (checkLink_of_mem_webLinks hwellFormed hurl)
  · intro url hurl
    have hweb := Url.leadsToWeb_of_checkLink hurl
    exact ⟨hweb, fun scheme rest => hweb.scheme⟩

/-- A job with links that are written in unusual ways. -/
def contextOfLinks : Context where
  recipientName := "Ada"
  jobId := "\"><a href=\"javascript:alert(1)\">"
  outcome := .success
  statusText := "Done"
  submissionTime := none
  completionTime := none
  executionTime := none
  stages := none
  links := ⟨"\x01ht\ntps:\\[::1]\\?\"><script>", "HTTP:[::1]#'", "http:////[::1]"⟩
  logoUrl := some "https://ada@[::1]:80/logo.png"
  currentYear := 2026

/-- Controls and quotes in a link do not lead elsewhere. -/
theorem linkValues_html_of_controls :
    Context.ofAttributes contextOfLinks.toAttributes = .ok contextOfLinks ∧
    ∃ d, renderBuiltIn "Tracker" "\"ada\"@example.org" contextOfLinks = .ok d ∧
      linkValues d.html.toList
        = (webLinks contextOfLinks ++ ["mailto:" ++ "\"ada\"@example.org"]).map writtenLink ∧
      ∀ url ∈ webLinks contextOfLinks, LeadsToWeb url.toList := by
  have hok : Context.ofAttributes contextOfLinks.toAttributes = .ok contextOfLinks := by
    decide +kernel
  obtain ⟨d, hd, -, hlinks, -, hweb, -⟩ := linkValues_html hok "Tracker" "\"ada\"@example.org"
  exact ⟨hok, d, hd, hlinks, hweb⟩

end JobNotice.Notice
