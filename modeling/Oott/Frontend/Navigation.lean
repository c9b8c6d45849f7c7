import Oott.Frontend.NotificationsList

/-!
# Navigation in the notifications list

A tap of a page, or the selection of a filter, is a navigation; a refresh is not, and takes its page
from `currentPage`, which is only updated when a response is applied. A refresh between a navigation
and its response therefore supersedes the request of the navigation with one for the page that is
left (`navigation_lost_to_refresh`). The user's last navigation is shown exactly when every refresh
since then has been made with its page as the current one (`last_navigation_shown_iff`).
-/

set_option autoImplicit false
set_option relaxedAutoImplicit false

namespace Oott

open Effects

namespace NotificationsList

/-! ### What the history says -/

/-- The page of a navigation. -/
def navigated (taken : Taken NotificationsList NotificationsLabel) : Option ℕ :=
  match taken.label with
  | .pageTapped page => some page
  | .filterSelected _ => some 0
  | _ => none

/-- The page of the user's last navigation; the list is opened at page 0. -/
def lastNavigation (history : List (Taken NotificationsList NotificationsLabel)) : ℕ :=
  (lastOf navigated history).getD 0

/-- The steps since the user's last navigation. -/
def sinceNavigation (history : List (Taken NotificationsList NotificationsLabel)) :
    List (Taken NotificationsList NotificationsLabel) :=
  sinceLast (fun taken ↦ (navigated taken).isSome) history

/-- A step of browsing: a tap of a page, the selection of a filter, a refresh, the completion of a
request, which has succeeded unless the request has been superseded, or a frame. -/
def Browses (taken : Taken NotificationsList NotificationsLabel) : Prop :=
  match taken.label with
  | .pageTapped _ | .filterSelected _ | .refreshed | .built => True
  | .completed request outcome =>
    taken.before.IsCurrent request.token → ∃ result, outcome = .value result
  | _ => False

/-- Whether a label is a refresh. -/
def isRefresh : NotificationsLabel → Bool
  | .refreshed => true
  | _ => false

/-- A refresh, if it is one, has been made at a page. -/
def RefreshesAt (page : ℕ) (taken : Taken NotificationsList NotificationsLabel) : Prop :=
  isRefresh taken.label → taken.before.currentPage = page

instance (page : ℕ) (taken : Taken NotificationsList NotificationsLabel) :
    Decidable (RefreshesAt page taken) :=
  inferInstanceAs (Decidable (_ → _))

theorem browses_value {list : NotificationsList} {request : PageRequest (Option Bool)}
    {result : NotificationPage} : Browses ⟨list, .completed request (.value result)⟩ :=
  fun _ ↦ ⟨result, rfl⟩

section History

variable (history : List (Taken NotificationsList NotificationsLabel))
  {taken : Taken NotificationsList NotificationsLabel} {page : ℕ}

theorem lastNavigation_append_of_navigated (hnavigated : navigated taken = some page) :
    lastNavigation (history ++ [taken]) = page := by
  rw [lastNavigation, lastOf_append, hnavigated]
  rfl

theorem lastNavigation_append (hnavigated : navigated taken = none) :
    lastNavigation (history ++ [taken]) = lastNavigation history := by
  rw [lastNavigation, lastOf_append, hnavigated]
  rfl

theorem sinceNavigation_append_of_navigated (hnavigated : navigated taken = some page) :
    sinceNavigation (history ++ [taken]) = [] := by
  rw [sinceNavigation, sinceLast_append, hnavigated]
  rfl

theorem sinceNavigation_append (hnavigated : navigated taken = none) :
    sinceNavigation (history ++ [taken]) = sinceNavigation history ++ [taken] := by
  rw [sinceNavigation, sinceLast_append, hnavigated]
  rfl

end History

/-! ### What browsing keeps -/

section Invariant

variable {history : List (Taken NotificationsList NotificationsLabel)} {list : NotificationsList}

/-- What is shown once no request is in flight: the result of the last request that has been
applied, for the current page and under the current filter. -/
def ShowsLastResult (history : List (Taken NotificationsList NotificationsLabel))
    (list : NotificationsList) : Prop :=
  ∃ request result, lastOf appliedResult history = some (request, result) ∧
    request.page = list.currentPage ∧ request.query = list.filter.isNew ∧
    (list.rows.items.map NotificationRows.shownRow).Perm
      (result.items.map NotificationRows.shownRow)

/-- The navigation is still on its way, or has arrived: every request that may be applied is for its
page. -/
structure Arrives (history : List (Taken NotificationsList NotificationsLabel))
    (list : NotificationsList) : Prop where
  refreshed : ∀ taken ∈ sinceNavigation history, RefreshesAt (lastNavigation history) taken
  requested : ∀ request ∈ list.inFlight, list.fetchToken = some request.token →
    request.page = lastNavigation history
  shown : list.Idle → list.currentPage = lastNavigation history

/-- The navigation is lost: every request that may be applied is for the page that is left. -/
structure Lost (history : List (Taken NotificationsList NotificationsLabel))
    (list : NotificationsList) : Prop where
  refreshed : ¬ ∀ taken ∈ sinceNavigation history, RefreshesAt (lastNavigation history) taken
  requested : ∀ request ∈ list.inFlight, list.fetchToken = some request.token →
    request.page = list.currentPage
  shown : list.currentPage ≠ lastNavigation history

/-- What browsing keeps. A request that may be applied is under the current filter. -/
structure BrowsingInvariant (history : List (Taken NotificationsList NotificationsLabel))
    (list : NotificationsList) : Prop where
  sound : list.Sound
  mounted : list.mounted = true
  error : list.error = none
  filtered : ∀ request ∈ list.inFlight, list.fetchToken = some request.token →
    request.query = list.filter.isNew
  applied : list.Idle → ShowsLastResult history list
  pages : Arrives history list ∨ Lost history list

/-- The request of a fetch is the only one that may be applied. -/
theorem Sound.fetchPage_requested (hsound : list.Sound) {isPhone paging animateDiff : Bool}
    {page : ℕ} {request : PageRequest (Option Bool)}
    (hmem : request ∈ (list.fetchPage isPhone page paging animateDiff).inFlight)
    (htoken : (list.fetchPage isPhone page paging animateDiff).fetchToken = some request.token) :
    request.page = page ∧ request.query = list.filter.isNew := by
  rw [hsound.fetches.eq_of_runFetch hmem htoken]
  exact ⟨rfl, rfl⟩

/-- A fetch for the page of the navigation, or for the current page once the navigation is lost,
keeps the rest. -/
theorem BrowsingInvariant.fetched {isPhone paging animateDiff : Bool} {page : ℕ}
    (hsound : list.Sound) (hmounted : list.mounted = true)
    (hpages : Arrives history (list.fetchPage isPhone page paging animateDiff) ∨
      Lost history (list.fetchPage isPhone page paging animateDiff)) :
    BrowsingInvariant history (list.fetchPage isPhone page paging animateDiff) where
  sound := ⟨hsound.fetches.runFetch, hsound.nodup_ids⟩
  mounted := hmounted
  error := rfl
  filtered := fun _ hmem htoken ↦ (hsound.fetchPage_requested hmem htoken).2
  applied := fun hidle ↦ absurd hidle PaginatedList.not_idle_runFetch
  pages := hpages

theorem Arrives.navigated {taken : Taken NotificationsList NotificationsLabel} {page : ℕ}
    (hnavigated : navigated taken = some page) (hsound : list.Sound)
    (isPhone paging animateDiff : Bool) :
    Arrives (history ++ [taken]) (list.fetchPage isPhone page paging animateDiff) where
  refreshed := by simp [sinceNavigation_append_of_navigated history hnavigated]
  requested := by
    rw [lastNavigation_append_of_navigated history hnavigated]
    exact fun _ hmem htoken ↦ (hsound.fetchPage_requested hmem htoken).1
  shown := fun hidle ↦ absurd hidle PaginatedList.not_idle_runFetch

/-- A refresh at the page of the navigation is for that page; any other one loses it. -/
theorem BrowsingInvariant.pages_refreshed (hinvariant : BrowsingInvariant history list)
    (isPhone : Bool) :
    Arrives (history ++ [⟨list, .refreshed⟩]) (list.fetchPage isPhone list.currentPage false true) ∨
      Lost (history ++ [⟨list, .refreshed⟩])
        (list.fetchPage isPhone list.currentPage false true) := by
  have hnavigated : navigated ⟨list, .refreshed⟩ = none := rfl
  have hrequested (request : PageRequest (Option Bool))
      (hmem : request ∈ (list.fetchPage isPhone list.currentPage false true).inFlight)
      (htoken : (list.fetchPage isPhone list.currentPage false true).fetchToken =
        some request.token) : request.page = list.currentPage :=
    (hinvariant.sound.fetchPage_requested hmem htoken).1
  have hlast := lastNavigation_append history hnavigated
  have hsince := sinceNavigation_append history hnavigated
  rcases hinvariant.pages with harrives | hlost
  · by_cases hpage : list.currentPage = lastNavigation history
    · left
      constructor
      · rw [hlast, hsince, List.forall_mem_append, List.forall_mem_singleton]
        exact ⟨harrives.refreshed, fun _ ↦ hpage⟩
      · rw [hlast, ← hpage]
        exact hrequested
      · exact fun hidle ↦ absurd hidle PaginatedList.not_idle_runFetch
    · right
      constructor
      · rw [hlast, hsince, List.forall_mem_append, List.forall_mem_singleton]
        exact fun hall ↦ hpage (hall.2 rfl)
      · exact hrequested
      · rw [hlast]
        exact hpage
  · right
    constructor
    · rw [hlast, hsince, List.forall_mem_append]
      exact fun hall ↦ hlost.refreshed hall.1
    · exact hrequested
    · rw [hlast]
      exact hlost.shown

/-- A step that is neither a navigation nor a refresh, and that leaves the current page and the
requests that may be applied. -/
theorem pages_of_kept {taken : Taken NotificationsList NotificationsLabel}
    {after : NotificationsList}
    (hpages : Arrives history list ∨ Lost history list) (hnavigated : navigated taken = none)
    (hrefreshed : isRefresh taken.label = false)
    (hrequested : ∀ request ∈ after.inFlight, after.fetchToken = some request.token →
      request ∈ list.inFlight ∧ list.fetchToken = some request.token)
    (hidle : after.Idle → list.Idle) (hpage : after.currentPage = list.currentPage) :
    Arrives (history ++ [taken]) after ∨ Lost (history ++ [taken]) after := by
  have hlast := lastNavigation_append history hnavigated
  have hsince := sinceNavigation_append history hnavigated
  have hat (page : ℕ) : RefreshesAt page taken := fun heq ↦ absurd heq (by simp [hrefreshed])
  refine hpages.imp (fun harrives ↦ ?_) fun hlost ↦ ?_
  · constructor
    · rw [hlast, hsince, List.forall_mem_append, List.forall_mem_singleton]
      exact ⟨harrives.refreshed, hat _⟩
    · rw [hlast]
      intro request hmem htoken
      obtain ⟨hmem, htoken⟩ := hrequested request hmem htoken
      exact harrives.requested request hmem htoken
    · rw [hlast, hpage]
      exact fun h ↦ harrives.shown (hidle h)
  · constructor
    · rw [hlast, hsince, List.forall_mem_append]
      exact fun hall ↦ hlost.refreshed hall.1
    · rw [hpage]
      intro request hmem htoken
      obtain ⟨hmem, htoken⟩ := hrequested request hmem htoken
      exact hlost.requested request hmem htoken
    · rw [hlast, hpage]
      exact hlost.shown

/-- The result of a request that may be applied has its page shown. -/
theorem pages_of_applied {request : PageRequest (Option Bool)} {result : NotificationPage}
    {after : NotificationsList} (hpages : Arrives history list ∨ Lost history list)
    (hinFlight : request ∈ list.inFlight) (htoken : list.fetchToken = some request.token)
    (hidle : after.Idle) (hpage : after.currentPage = request.page) :
    Arrives (history ++ [⟨list, .completed request (.value result)⟩]) after ∨
      Lost (history ++ [⟨list, .completed request (.value result)⟩]) after := by
  have hnavigated : navigated ⟨list, .completed request (.value result)⟩ = none := rfl
  have hlast := lastNavigation_append history hnavigated
  have hsince := sinceNavigation_append history hnavigated
  refine hpages.imp (fun harrives ↦ ?_) fun hlost ↦ ?_
  · constructor
    · rw [hlast, hsince, List.forall_mem_append, List.forall_mem_singleton]
      exact ⟨harrives.refreshed, nofun⟩
    · exact fun other hmem hother ↦ absurd hother (hidle other hmem)
    · rw [hlast, hpage]
      exact fun _ ↦ harrives.requested request hinFlight htoken
  · constructor
    · rw [hlast, hsince, List.forall_mem_append]
      exact fun hall ↦ hlost.refreshed hall.1
    · exact fun other hmem hother ↦ absurd hother (hidle other hmem)
    · rw [hlast, hpage, hlost.requested request hinFlight htoken]
      exact hlost.shown

/-- The completion of a superseded request leaves everything but the requests in flight. -/
theorem BrowsingInvariant.superseded (hinvariant : BrowsingInvariant history list)
    {request : PageRequest (Option Bool)} {outcome : FetchOutcome NotificationPage}
    (hcurrent : ¬ list.IsCurrent request.token)
    (hsound : Sound { list with toPaginatedList := list.received request.token }) :
    BrowsingInvariant (history ++ [⟨list, .completed request outcome⟩])
      { list with toPaginatedList := list.received request.token } := by
  have hsuperseded : list.fetchToken ≠ some request.token := fun htoken ↦
    hcurrent ⟨hinvariant.mounted, htoken⟩
  have hidle := PaginatedList.idle_received_iff hsuperseded
  have hinFlight : ∀ other ∈ (list.received request.token).inFlight, other ∈ list.inFlight :=
    fun other hmem ↦ (PaginatedList.mem_received.1 hmem).1
  refine ⟨hsound, hinvariant.mounted, hinvariant.error, ?_, ?_, ?_⟩
  · exact fun other hmem htoken ↦ hinvariant.filtered other (hinFlight other hmem) htoken
  · rw [ShowsLastResult, lastOf_append, appliedResult_of_not_current hcurrent]
    exact fun h ↦ hinvariant.applied (hidle.1 h)
  · exact pages_of_kept hinvariant.pages rfl rfl
      (fun other hmem htoken ↦ ⟨hinFlight other hmem, htoken⟩) hidle.1 rfl

/-- The result of the latest request is shown, and no request is in flight then. -/
theorem BrowsingInvariant.resulted (hinvariant : BrowsingInvariant history list)
    {request : PageRequest (Option Bool)} {result : NotificationPage}
    (hinFlight : request ∈ list.inFlight) (hcurrent : list.IsCurrent request.token)
    {received : NotificationsList}
    (hreceived : received = { list with toPaginatedList := list.received request.token })
    (hsound : (received.onResult request result).Sound) :
    BrowsingInvariant (history ++ [⟨list, .completed request (.value result)⟩])
      (received.onResult request result) := by
  subst hreceived
  set received : NotificationsList :=
    { list with toPaginatedList := list.received request.token }
  have hbase := received.onResult_toPaginatedList request result
  have hnodup : (received.rows.items.map Notification.id).Nodup := hinvariant.sound.nodup_ids
  have hpage : (received.onResult request result).currentPage = request.page := by
    rw [hbase]
    rfl
  have hidle : (received.onResult request result).Idle := by
    rw [hbase]
    exact PaginatedList.idle_received hcurrent.2
  constructor
  · exact hsound
  · rw [hbase]
    exact hinvariant.mounted
  · rw [hbase]
    exact hinvariant.error
  · exact fun other hmem htoken ↦ absurd htoken (hidle other hmem)
  · refine fun _ ↦ ⟨request, result, ?_, hpage.symm, ?_, ?_⟩
    · rw [lastOf_append, appliedResult_of_current hcurrent]
      rfl
    · rw [onResult_filter]
      exact hinvariant.filtered request hinFlight hcurrent.2
    · exact onResult_perm hnodup request result
  · exact pages_of_applied hinvariant.pages hinFlight hcurrent.2 hidle hpage

theorem BrowsingInvariant.completed (hinvariant : BrowsingInvariant history list)
    {request : PageRequest (Option Bool)} {outcome : FetchOutcome NotificationPage}
    (hinFlight : request ∈ list.inFlight)
    (hbrowses : Browses ⟨list, .completed request outcome⟩) :
    BrowsingInvariant (history ++ [⟨list, .completed request outcome⟩])
      (list.completed request outcome) := by
  have hcancelled (hcancelled : outcome = .cancelled) : ¬ list.IsCurrent request.token := by
    intro hcurrent
    obtain ⟨result, heq⟩ := hbrowses hcurrent
    cases heq.symm.trans hcancelled
  have hsound := hinvariant.sound.step (.completed request outcome hinFlight hcancelled)
  rcases PaginatedList.settle_cases hcancelled with
    ⟨hcurrent, heq⟩ | ⟨hcurrent, ⟨result, rfl, heq⟩ | ⟨message, rfl, heq⟩⟩
  · rw [NotificationsList.completed, heq] at hsound ⊢
    exact hinvariant.superseded hcurrent hsound
  · rw [NotificationsList.completed, heq] at hsound ⊢
    exact hinvariant.resulted hinFlight hcurrent rfl hsound
  · obtain ⟨result, hvalue⟩ := hbrowses hcurrent
    cases hvalue

theorem BrowsingInvariant.step (hinvariant : BrowsingInvariant history list)
    {label : NotificationsLabel} {after : NotificationsList}
    (hbrowses : Browses ⟨list, label⟩) (hstep : NotificationsStep list label after) :
    BrowsingInvariant (history ++ [⟨list, label⟩]) after := by
  have hsound := hinvariant.sound.step hstep
  cases hstep with
  | pageTapped isPhone page hmounted =>
    exact .fetched hinvariant.sound hmounted (.inl (.navigated rfl hinvariant.sound _ _ _))
  | filterSelected isPhone filter hmounted =>
    have hfiltered : Sound { list with filter := filter } :=
      ⟨hinvariant.sound.fetches, hinvariant.sound.nodup_ids⟩
    exact .fetched hfiltered hmounted (.inl (.navigated rfl hfiltered _ _ _))
  | refreshed isPhone hmounted =>
    exact .fetched hinvariant.sound hmounted (hinvariant.pages_refreshed isPhone)
  | completed request outcome hinFlight hcancelled => exact hinvariant.completed hinFlight hbrowses
  | built isPhone hmounted =>
    have hbase := list.build_toPaginatedList isPhone
    constructor
    · exact hsound
    · rw [hbase]
      exact hinvariant.mounted
    · rw [hbase]
      exact hinvariant.error
    · rw [hbase, build_filter]
      exact hinvariant.filtered
    · rw [ShowsLastResult, lastOf_append, hbase, build_filter, build_items]
      exact hinvariant.applied
    · refine pages_of_kept hinvariant.pages rfl rfl ?_ ?_ ?_
      · rw [hbase]
        exact fun request hmem htoken ↦ ⟨hmem, htoken⟩
      · rw [hbase]
        exact id
      · rw [hbase]
  | toggled | toggleCompleted | removed | disposed => exact absurd hbrowses id

theorem BrowsingInvariant.opened (isPhone : Bool) :
    BrowsingInvariant [] (NotificationsList.opened isPhone) := by
  have hsound : Sound { didInitialFetch := true } := ⟨.initial true, List.nodup_nil⟩
  refine .fetched hsound rfl (.inl ⟨?_, ?_, ?_⟩)
  · simp [sinceNavigation, sinceLast]
  · exact fun _ hmem htoken ↦ (hsound.fetchPage_requested hmem htoken).1
  · exact fun hidle ↦ absurd hidle PaginatedList.not_idle_runFetch

end Invariant

/-! ### The last navigation -/

section Runs

variable {isPhone : Bool} {history : List (Taken NotificationsList NotificationsLabel)}
  {list : NotificationsList}

theorem BrowsingInvariant.of_run
    (hrun : Run NotificationsStep (NotificationsList.opened isPhone) history list)
    (hbrowses : ∀ taken ∈ history, Browses taken) : BrowsingInvariant history list := by
  refine hrun.invariant (fun history list ↦ (∀ taken ∈ history, Browses taken) →
    BrowsingInvariant history list) (fun _ ↦ .opened isPhone) ?_ hbrowses
  intro history before label after ih hstep hall
  obtain ⟨hearlier, hlast⟩ := List.forall_mem_append.1 hall
  exact (ih hearlier).step (hlast _ (List.mem_singleton_self _)) hstep

/-- In every run of taps, selections, refreshes and completions in which every request that is not
superseded succeeds, once no request is in flight: the page of the user's last navigation is the
current one, and what the backend has returned for it under the current filter is shown, exactly
when every refresh since that navigation has been made with its page as the current one. -/
theorem last_navigation_shown_iff
    (hrun : Run NotificationsStep (NotificationsList.opened isPhone) history list)
    (hbrowses : ∀ taken ∈ history, Browses taken) (hidle : list.Idle) :
    (list.currentPage = lastNavigation history ∧ list.isLoading = false ∧ list.error = none ∧
      ShowsLastResult history list) ↔
      ∀ taken ∈ sinceNavigation history, RefreshesAt (lastNavigation history) taken := by
  have hinvariant := BrowsingInvariant.of_run hrun hbrowses
  have hloading : list.isLoading = false := by
    refine Bool.eq_false_iff.2 fun hloading ↦ ?_
    exact hinvariant.sound.fetches.loading hinvariant.mounted hloading hidle
  constructor
  · rintro ⟨hpage, -⟩
    rcases hinvariant.pages with harrives | hlost
    · exact harrives.refreshed
    · exact absurd hpage hlost.shown
  · intro hrefreshed
    rcases hinvariant.pages with harrives | hlost
    · exact ⟨harrives.shown hidle, hloading, hinvariant.error, hinvariant.applied hidle⟩
    · exact absurd hrefreshed hlost.refreshed

end Runs

/-- The second page is tapped, and shown when the timer refreshes it. -/
theorem last_navigation_shown_iff_refreshedLater : ∃ history list,
    Run NotificationsStep (NotificationsList.opened false) history list ∧
      lastNavigation history = 1 ∧ list.currentPage = 1 ∧ ShowsLastResult history list := by
  have hstart : Run NotificationsStep (NotificationsList.opened false) [] (.opened false) := .start
  have hopened := hstart.step
    (.completed (wideRequest 0 0 false) (.value firstOfTwo) (by decide) nofun)
  have htapped := hopened.step (.pageTapped false 1 rfl)
  have hshown := htapped.step
    (.completed (wideRequest 1 1 false) (.value secondOfTwo) (by decide) nofun)
  have hrefreshed := hshown.step (.refreshed false rfl)
  have hlast := hrefreshed.step
    (.completed (wideRequest 2 1 true) (.value secondOfTwo) (by decide) nofun)
  have hshows := last_navigation_shown_iff hlast
  simp only [List.forall_mem_append, List.forall_mem_singleton] at hshows
  obtain ⟨hpage, -, -, hresult⟩ := (hshows ⟨⟨⟨⟨⟨List.forall_mem_nil _, browses_value⟩, trivial⟩,
    browses_value⟩, trivial⟩, browses_value⟩ (by decide +kernel)).2 (by decide +kernel)
  refine ⟨_, _, hlast, ?_, ?_, hresult⟩
  · decide +kernel
  · rw [hpage]
    decide +kernel

/-- The second page is tapped, and the timer refreshes before the response: the first page is
fetched again, and stays. -/
theorem navigation_lost_to_refresh : ∃ history list,
    Run NotificationsStep (NotificationsList.opened false) history list ∧
      (∀ taken ∈ history, Browses taken) ∧ list.inFlight = [] ∧ lastNavigation history = 1 ∧
      list.currentPage = 0 ∧ list.rows.items = firstOfTwo.items := by
  have hstart : Run NotificationsStep (NotificationsList.opened false) [] (.opened false) := .start
  have hopened := hstart.step
    (.completed (wideRequest 0 0 false) (.value firstOfTwo) (by decide) nofun)
  have htapped := hopened.step (.pageTapped false 1 rfl)
  have hrefreshed := htapped.step (.refreshed false rfl)
  have hsuperseded := hrefreshed.step
    (.completed (wideRequest 1 1 false) .cancelled (by decide) (fun _ ↦ by decide))
  have hlast := hsuperseded.step
    (.completed (wideRequest 2 0 true) (.value firstOfTwo) (by decide) nofun)
  refine ⟨_, _, hlast, ?_, ?_, ?_, ?_, ?_⟩
  · simp only [List.forall_mem_append, List.forall_mem_singleton]
    exact ⟨⟨⟨⟨⟨List.forall_mem_nil _, browses_value⟩, trivial⟩, trivial⟩, fun hcurrent ↦
      absurd hcurrent (by decide)⟩, browses_value⟩
  · decide +kernel
  · decide +kernel
  · decide +kernel
  · decide +kernel

end NotificationsList

end Oott
