import CrawlerApi.Fetch.Browser
import Mathlib.Data.List.Basic

/-!
# What the guard does to a navigation

The response handler sees every response of a navigation and logs the refused
ones, but its verdicts do not reach the outcome: a page that loads is returned
wherever its redirects led.
-/

namespace CrawlerApi.Fetch

open UrlGuard (validateUrlAsync)

/-- Every call on the browser returns, up to the closing of the page. -/
structure Navigation.Loads (prepared : Except String Unit) (navigation : Navigation) : Prop where
  opened : navigation.opened = .ok ()
  prepared : prepared = .ok ()
  goto : ∃ response, navigation.goto = .ok response
  content : ∃ body, navigation.content = .ok body
  closed : navigation.closed = .ok ()

/-- The guard does not accept a response of the navigation when the handler asks
about it, or the URL of the page once it is read. -/
def Navigation.Rejected (tables : TextTables) (dns : Dns) (navigation : Navigation) : Prop :=
  (∃ n url, navigation.responses[n]? = some url ∧
      validateUrlAsync tables (dns (n + 1)) url ≠ .ok ()) ∨
    validateUrlAsync tables (dns (navigation.responses.length + 1)) navigation.url ≠ .ok ()

def RaisesFetchError (outcome : Except Exn FetchResult) : Prop :=
  ∃ message statusCode blocked, outcome = .error (.fetchError message statusCode blocked)

def CarriesPage (navigation : Navigation) (outcome : Except Exn FetchResult) : Prop :=
  ∃ result, outcome = .ok result ∧ result.url = navigation.url ∧
    navigation.content = .ok result.body

/-- A navigation that was rejected ends in a `FetchError`. -/
def GuardsNavigation (tables : TextTables) (dns : Dns) (started : Except Exn Navigation)
    (outcome : Except Exn FetchResult) : Prop :=
  ∀ navigation, started = .ok navigation → navigation.Rejected tables dns →
    RaisesFetchError outcome

theorem not_raises_of_carriesPage {navigation : Navigation} {outcome : Except Exn FetchResult}
    (h : CarriesPage navigation outcome) : ¬ RaisesFetchError outcome := by
  obtain ⟨result, hresult, -⟩ := h
  rintro ⟨message, statusCode, blocked, herror⟩
  rw [hresult] at herror
  cases herror

section Engine

variable {tables : TextTables} {navigation : Navigation} {prepared : Except String Unit}
  {block : Except String FetchResult} {failure : String → Exn}

/-- What the two engines share: a navigation that loads is returned, and one that
does not ends in a `FetchError`, whatever the handler saw. -/
structure Decides (prepared : Except String Unit) (navigation : Navigation)
    (outcome : Except Exn FetchResult) : Prop where
  loaded : navigation.Loads prepared → CarriesPage navigation outcome
  failed : ¬ navigation.Loads prepared → RaisesFetchError outcome

/-- An outcome the browser's calls decide is guarded exactly when no navigation
that loads was rejected. -/
theorem guardsNavigation_iff {dns : Dns} {started : Except Exn Navigation}
    {outcome : Except Exn FetchResult} {prepared : Navigation → Except String Unit}
    (hdecides : ∀ navigation, started = .ok navigation →
      Decides (prepared navigation) navigation outcome) :
    GuardsNavigation tables dns started outcome ↔
      ∀ navigation, started = .ok navigation → navigation.Loads (prepared navigation) →
        ¬ navigation.Rejected tables dns := by
  constructor
  · intro hguards navigation hstarted hloads hrejected
    exact not_raises_of_carriesPage ((hdecides navigation hstarted).loaded hloads)
      (hguards navigation hstarted hrejected)
  · intro hcalm navigation hstarted hrejected
    apply (hdecides navigation hstarted).failed
    intro hloads
    exact hcalm navigation hstarted hloads hrejected

def ReportsFetchError (failure : String → Exn) : Prop :=
  ∀ message, ∃ text, failure message = .fetchError text none false

theorem browserFailure_reports (network timedOut failed : String) :
    ReportsFetchError (browserFailure tables network timedOut failed) := by
  intro message
  unfold browserFailure
  split
  · exact ⟨_, rfl⟩
  · split
    · exact ⟨_, rfl⟩
    · exact ⟨_, rfl⟩

theorem raises_of_error (hfailure : ReportsFetchError failure) (message : String) :
    RaisesFetchError (.error (failure message)) := by
  obtain ⟨text, htext⟩ := hfailure message
  exact ⟨text, none, false, congrArg Except.error htext⟩

/-- A block that returns the page when its response and its content are there, and
raises when one of them is not. -/
structure Reads (navigation : Navigation) (block : Except String FetchResult) : Prop where
  returned : ∀ response body, navigation.goto = .ok response → navigation.content = .ok body →
    ∃ result, block = .ok result ∧ result.url = navigation.url ∧ result.body = body
  raised : ¬ ((∃ response, navigation.goto = .ok response) ∧
    ∃ body, navigation.content = .ok body) → ∃ message, block = .error message

theorem reads_of_bind {page : Option BrowserResponse → Bytes → FetchResult}
    (hurl : ∀ response body, (page response body).url = navigation.url)
    (hbody : ∀ response body, (page response body).body = body) :
    Reads navigation
      (navigation.goto.bind fun response => navigation.content.map (page response)) where
  returned response body hgoto hcontent := by
    rw [hgoto, hcontent]
    exact ⟨_, rfl, hurl response body, hbody response body⟩
  raised h := by
    cases hgoto : navigation.goto with
    | error message => exact ⟨message, rfl⟩
    | ok response =>
        cases hcontent : navigation.content with
        | error message => exact ⟨message, rfl⟩
        | ok body => exact absurd ⟨⟨response, hgoto⟩, ⟨body, hcontent⟩⟩ h

theorem carriesPage_closing (hreads : Reads navigation block) (hloads : navigation.Loads prepared) :
    CarriesPage navigation ((closing navigation.closed block).mapError failure) := by
  obtain ⟨response, hgoto⟩ := hloads.goto
  obtain ⟨body, hcontent⟩ := hloads.content
  obtain ⟨result, rfl, hurl, hbody⟩ := hreads.returned response body hgoto hcontent
  refine ⟨result, ?_, hurl, by rw [hcontent, hbody]⟩
  rw [hloads.closed]
  rfl

theorem raises_closing (hfailure : ReportsFetchError failure)
    (h : navigation.closed = .ok () → ∃ message, block = .error message) :
    RaisesFetchError ((closing navigation.closed block).mapError failure) := by
  cases hclosed : navigation.closed with
  | error message => exact raises_of_error hfailure message
  | ok closed =>
      obtain ⟨message, rfl⟩ := h hclosed
      exact raises_of_error hfailure message

end Engine

namespace PlaywrightFetcher

variable {tables : TextTables} {dns : Dns} {pool : Option Browser} {elapsedMs : Int}
  {url : String} {proxy : Option Proxy} {navigation : Navigation}

theorem reads_read : Reads navigation (read tables elapsedMs proxy navigation) :=
  reads_of_bind (fun _ _ => rfl) fun _ _ => rfl

theorem decides_navigate : Decides (.ok ()) navigation
    (navigate tables dns elapsedMs url proxy navigation).outcome where
  loaded hloads := by
    unfold navigate
    rw [hloads.opened]
    exact carriesPage_closing reads_read hloads
  failed hfails := by
    have hfailure : ReportsFetchError (failure tables url) := browserFailure_reports _ _ _
    unfold navigate
    split
    · exact raises_of_error hfailure _
    · rename_i hopened
      apply raises_closing hfailure
      intro hclosed
      apply reads_read.raised
      rintro ⟨hgoto, hcontent⟩
      exact hfails ⟨hopened, rfl, hgoto, hcontent, hclosed⟩

theorem fetch_outcome (hstarted : start tables dns pool url proxy = .ok navigation) :
    (fetch tables dns pool elapsedMs url proxy).outcome =
      (navigate tables dns elapsedMs url proxy navigation).outcome := by
  unfold fetch
  rw [hstarted]

end PlaywrightFetcher

namespace CamoufoxFetcher

variable {tables : TextTables} {dns : Dns} {ready : Option Bool} {package : Option Browser}
  {elapsedMs : Int} {url : String} {proxy : Option Proxy} {headers : Option Headers}
  {navigation : Navigation}

theorem reads_read : Reads navigation (read tables elapsedMs proxy navigation) :=
  reads_of_bind (fun _ _ => rfl) fun _ _ => rfl

theorem decides_navigate : Decides (prepared tables headers navigation) navigation
    (navigate tables dns elapsedMs url proxy headers navigation).outcome where
  loaded hloads := by
    unfold navigate
    rw [hloads.opened, hloads.prepared]
    exact carriesPage_closing reads_read hloads
  failed hfails := by
    have hfailure : ReportsFetchError (failure tables url) := browserFailure_reports _ _ _
    unfold navigate
    split
    · exact raises_of_error hfailure _
    · rename_i hopened
      split
      · exact raises_closing hfailure fun _ => ⟨_, rfl⟩
      · rename_i hprepared
        apply raises_closing hfailure
        intro hclosed
        apply reads_read.raised
        rintro ⟨hgoto, hcontent⟩
        exact hfails ⟨hopened, hprepared, hgoto, hcontent, hclosed⟩

theorem fetch_outcome
    (hstarted : start tables dns ready package url proxy headers = .ok navigation) :
    (fetch tables dns ready package elapsedMs url proxy headers).outcome =
      (navigate tables dns elapsedMs url proxy headers navigation).outcome := by
  unfold fetch
  rw [hstarted]

end CamoufoxFetcher

/-- In either engine a rejected navigation ends in a `FetchError` exactly when no
navigation that is started and loads is rejected: the handler cannot end one. -/
theorem guardsNavigation_iff_not_rejected (tables : TextTables) (dns : Dns)
    (browser : Option Browser) (ready : Option Bool) (elapsedMs : Int) (url : String)
    (proxy : Option Proxy) (headers : Option Headers) :
    (GuardsNavigation tables dns (PlaywrightFetcher.start tables dns browser url proxy)
        (PlaywrightFetcher.fetch tables dns browser elapsedMs url proxy).outcome ↔
      ∀ navigation, PlaywrightFetcher.start tables dns browser url proxy = .ok navigation →
        navigation.Loads (.ok ()) → ¬ navigation.Rejected tables dns) ∧
    (GuardsNavigation tables dns (CamoufoxFetcher.start tables dns ready browser url proxy headers)
        (CamoufoxFetcher.fetch tables dns ready browser elapsedMs url proxy headers).outcome ↔
      ∀ navigation,
        CamoufoxFetcher.start tables dns ready browser url proxy headers = .ok navigation →
        navigation.Loads (CamoufoxFetcher.prepared tables headers navigation) →
          ¬ navigation.Rejected tables dns) := by
  constructor
  · apply guardsNavigation_iff
    intro navigation hstarted
    rw [PlaywrightFetcher.fetch_outcome hstarted]
    exact PlaywrightFetcher.decides_navigate
  · apply guardsNavigation_iff
    intro navigation hstarted
    rw [CamoufoxFetcher.fetch_outcome hstarted]
    exact CamoufoxFetcher.decides_navigate

def metadataRedirect : String := "https://httpbin.org/redirect-to?url=http://169.254.169.254/"

def redirectedBrowser : Browser := fun launch => {
  opened := .ok ()
  setHeaders := .ok ()
  responses := [launch.url, "http://169.254.169.254/"]
  goto := .ok (some ⟨200, .ok []⟩)
  url := "http://169.254.169.254/"
  content := .ok [97]
  closed := .ok () }

theorem metadata_page_returned :
    ¬ ∀ tables dns browser elapsedMs url proxy,
      GuardsNavigation tables dns (PlaywrightFetcher.start tables dns browser url proxy)
        (PlaywrightFetcher.fetch tables dns browser elapsedMs url proxy).outcome := by
  intro hguards
  have haccepted : validateUrlAsync asciiTables (publicDns 0) metadataRedirect = .ok () := by
    decide +kernel
  have hrefused :
      validateUrlAsync asciiTables (publicDns 2) "http://169.254.169.254/" ≠ .ok () := by
    decide +kernel
  have hstarted : ∃ navigation, PlaywrightFetcher.start asciiTables publicDns
      (some redirectedBrowser) metadataRedirect none = .ok navigation ∧
        navigation.Loads (.ok ()) ∧ navigation.Rejected asciiTables publicDns := by
    unfold PlaywrightFetcher.start
    rw [haccepted]
    exact ⟨_, rfl, ⟨rfl, rfl, ⟨_, rfl⟩, ⟨_, rfl⟩, rfl⟩, .inl ⟨1, _, rfl, hrefused⟩⟩
  obtain ⟨navigation, hnavigation, hloads, hrejected⟩ := hstarted
  have hraises := hguards asciiTables publicDns (some redirectedBrowser) 0 metadataRedirect none
    navigation hnavigation hrejected
  rw [PlaywrightFetcher.fetch_outcome hnavigation] at hraises
  exact not_raises_of_carriesPage (PlaywrightFetcher.decides_navigate.loaded hloads) hraises

end CrawlerApi.Fetch
