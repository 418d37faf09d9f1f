/-
**Guests and the public surface.**

A browser visitor without a session is routed before any model runs: by a slash command, or by the
candidate intent of an ordinary text.  A text is read twice on the way, once by the command parser
and once more, where that does not know the command, by the check for protected commands.  Both take
the words of the text, so they agree on the first one.

Main definitions:

* `parseChatCommand` — the parser of commands;
* `guestRoute` — the router, which may raise where a text has no word;
* `AsksProtected` — the text or its intent asks for something that needs a session;
* `StaysPublic` — the route is there, starts public workflows only, and asks such a guest to log in.

Main results:

* `parseChatCommand_eq`, `isProtectedCommand_eq` — both readings by the words of the text;
* `stays_public_iff` — **a guest stays on the public surface except for a text that selects a
  context that is not public**.
-/

import PlatformOps.PythonText

set_option relaxedAutoImplicit false
set_option autoImplicit false

namespace PlatformOps

/-! ### Commands -/

/-- The contexts of a chat. -/
inductive ChatContextKind
  | login
  | registerAccount
  | joinOrganization
  | registerOrganization
  | onboardingReview
  | provision
  | help
  deriving DecidableEq

/-- The text of a context. -/
def ChatContextKind.value : ChatContextKind → String
  | .login => "login"
  | .registerAccount => "register_account"
  | .joinOrganization => "join_organization"
  | .registerOrganization => "register_organization"
  | .onboardingReview => "onboarding_review"
  | .provision => "provision"
  | .help => "help"

/-- The contexts in order. -/
def ChatContextKind.all : List ChatContextKind :=
  [.login, .registerAccount, .joinOrganization, .registerOrganization, .onboardingReview,
    .provision, .help]

/-- The kinds of commands. -/
inductive ChatCommandKind
  | login
  | showContext
  | selectContext
  | listResumable
  | cancelActive
  | unknown
  deriving DecidableEq

/-- A parsed command. -/
structure ParsedChatCommand where
  kind : ChatCommandKind
  contextKind : Option ChatContextKind
  deriving DecidableEq

/-- A command without a context. -/
def plainCommand (kind : ChatCommandKind) : ParsedChatCommand := ⟨kind, none⟩

/-- The context a word names. -/
def contextCommand (word : String) : Option ChatContextKind :=
  ChatContextKind.all.find? fun kind => kind.value = word

/-- The words of a text. -/
def textWords (text : String) : List String := (splitWords text).map String.ofList

/-- The command that words name. -/
def commandOf (command : String) (arguments : List String) : ParsedChatCommand :=
  if command = "/login" ∧ arguments = [] then plainCommand .login
  else if command = "/context" then
    match arguments with
    | [] => plainCommand .showContext
    | [argument] =>
        match contextCommand argument with
        | some kind => ⟨.selectContext, some kind⟩
        | none => plainCommand .unknown
    | _ => plainCommand .unknown
  else if command = "/resume" ∧ arguments = [] then plainCommand .listResumable
  else if command = "/cancel" ∧ arguments = [] then plainCommand .cancelActive
  else plainCommand .unknown

/-- `parse_chat_command`: none for an ordinary text. -/
def parseChatCommand (text : String) : Option ParsedChatCommand :=
  let normalized := strip text
  if !(['/'].isPrefixOf normalized.toList) then none
  else
    match textWords normalized with
    | [] => some (plainCommand .unknown)
    | command :: arguments => some (commandOf command arguments)

/-! ### Routes -/

/-- The candidate intents of a guest. -/
inductive GuestIntakeIntent
  | registerAccount
  | joinOrganization
  | help
  | protectedAction
  deriving DecidableEq

/-- What the browser is to do. -/
inductive GuestChatAction
  | startLogin
  | startRegistration
  | startJoinOrganization
  | showContexts
  | showHelp
  | loginRequired
  deriving DecidableEq

/-- A routing outcome. -/
structure GuestChatRoute where
  action : GuestChatAction
  contextKind : Option ChatContextKind
  deriving DecidableEq

/-- What the router may raise. -/
inductive GuestFault
  | indexError
  deriving DecidableEq

/-- The contexts a guest may enter. -/
def publicContexts : List ChatContextKind := [.login, .registerAccount, .joinOrganization, .help]

/-- The commands that need a session. -/
def protectedCommands : List String :=
  ["/provision", "/onboard-org", "/review-onboard-org", "/onboarding-review"]

/-- Ask to log in. -/
def loginRequiredRoute : GuestChatRoute := ⟨.loginRequired, none⟩

/-- Show the help. -/
def helpRoute : GuestChatRoute := ⟨.showHelp, some .help⟩

/-- `_is_protected_command`: the first word of a text that is not empty. -/
def isProtectedCommand (rawText : String) : Except GuestFault Bool :=
  if rawText = "" then .ok false
  else
    match splitOnce (strip rawText) with
    | [] => .error .indexError
    | word :: _ => .ok (protectedCommands.contains (String.ofList word))

/-- `_route_public_context`. -/
def routePublicContext : ChatContextKind → GuestChatRoute
  | .login => ⟨.startLogin, some .login⟩
  | .registerAccount => ⟨.startRegistration, some .registerAccount⟩
  | .joinOrganization => ⟨.startJoinOrganization, some .joinOrganization⟩
  | _ => helpRoute

/-- `_route_command`. -/
def routeCommand (command : ParsedChatCommand) (rawText : String) :
    Except GuestFault GuestChatRoute :=
  match command.kind, command.contextKind with
  | .login, _ => .ok ⟨.startLogin, some .login⟩
  | .showContext, _ => .ok ⟨.showContexts, none⟩
  | .selectContext, some kind =>
      if kind ∈ publicContexts then .ok (routePublicContext kind) else .ok helpRoute
  | .unknown, _ => do
      if ← isProtectedCommand rawText then return loginRequiredRoute
      return helpRoute
  | _, _ => .ok helpRoute

/-- `GuestChatRouter.route`. -/
def guestRoute (command : Option ParsedChatCommand) (candidateIntent : Option GuestIntakeIntent)
    (rawText : String) : Except GuestFault GuestChatRoute :=
  match command with
  | some command => routeCommand command rawText
  | none =>
      match candidateIntent with
      | some .registerAccount => .ok ⟨.startRegistration, some .registerAccount⟩
      | some .joinOrganization => .ok ⟨.startJoinOrganization, some .joinOrganization⟩
      | some .protectedAction => .ok loginRequiredRoute
      | _ => .ok helpRoute

/-! ### Both readings of a text -/

theorem textWords_strip (text : String) : textWords (strip text) = textWords text := by
  unfold textWords
  rw [splitWords_strip]

/-- **The parser by the words of the text.** -/
theorem parseChatCommand_eq (text : String) :
    parseChatCommand text =
      match textWords text with
      | [] => none
      | command :: arguments =>
          if ['/'].isPrefixOf command.toList then some (commandOf command arguments) else none := by
  unfold parseChatCommand
  dsimp only
  rw [textWords_strip]
  rcases splitWords_of_strip text with ⟨hstrip, hwords⟩ | ⟨c, rest, word, words, hstrip, hwords⟩
  · unfold textWords
    rw [hstrip, hwords]
    rfl
  · unfold textWords
    rw [hstrip, hwords, List.map_cons]
    dsimp only
    rw [String.toList_ofList, List.isPrefixOf_cons_cons, List.isPrefixOf_cons_cons]
    cases hslash : '/' == c with
    | true => rfl
    | false => rfl

/-- **The check for protected commands by the words of the text.** -/
theorem isProtectedCommand_eq {text command : String} {arguments : List String}
    (h : textWords text = command :: arguments) :
    isProtectedCommand text = .ok (protectedCommands.contains command) := by
  have hne : text ≠ "" := by
    rintro rfl
    cases h
  have hhead : ((splitOnce (strip text)).head?).map String.ofList = some command := by
    rw [head?_splitOnce, splitWords_strip, ← List.head?_map]
    show (textWords text).head? = _
    rw [h, List.head?_cons]
  unfold isProtectedCommand
  rw [if_neg hne]
  cases hsplit : splitOnce (strip text) with
  | nil =>
      rw [hsplit] at hhead
      cases hhead
  | cons word rest =>
      rw [hsplit] at hhead
      obtain rfl := Option.some.inj hhead
      rfl

/-! ### The public surface -/

/-- The action starts a workflow. -/
def GuestChatAction.startsWorkflow : GuestChatAction → Bool
  | .startLogin => true
  | .startRegistration => true
  | .startJoinOrganization => true
  | _ => false

/-- The text selects this context. -/
def SelectsContext (text : String) (kind : ChatContextKind) : Prop :=
  textWords text = ["/context", kind.value]

/-- The text, or its candidate intent, asks for something that needs a session. -/
def AsksProtected (text : String) (candidateIntent : Option GuestIntakeIntent) : Prop :=
  (∃ command ∈ protectedCommands, (textWords text).head? = some command) ∨
    (∃ kind, kind ∉ publicContexts ∧ SelectsContext text kind) ∨
    (parseChatCommand text = none ∧ candidateIntent = some .protectedAction)

/-- A route that starts a workflow is for a public context. -/
def GuestChatRoute.OpensPublicOnly (route : GuestChatRoute) : Prop :=
  route.action.startsWorkflow = true → ∃ kind ∈ publicContexts, route.contextKind = some kind

/-- The route of a text is there, starts a workflow for a public context only, and asks to log in
where the text needs a session. -/
def StaysPublic (text : String) (candidateIntent : Option GuestIntakeIntent) : Prop :=
  ∃ route, guestRoute (parseChatCommand text) candidateIntent text = .ok route ∧
    route.OpensPublicOnly ∧ (AsksProtected text candidateIntent → route = loginRequiredRoute)

theorem contextCommand_eq_some_iff {word : String} {kind : ChatContextKind} :
    contextCommand word = some kind ↔ word = kind.value := by
  constructor
  · intro h
    unfold contextCommand at h
    have hvalue := List.find?_some h
    exact (of_decide_eq_true hvalue).symm
  · rintro rfl
    cases kind <;> decide

theorem opensPublicOnly_of_not_starts {route : GuestChatRoute}
    (h : route.action.startsWorkflow = false) : route.OpensPublicOnly := by
  intro hstarts
  rw [h] at hstarts
  cases hstarts

theorem opensPublicOnly_routePublicContext (kind : ChatContextKind) :
    (routePublicContext kind).OpensPublicOnly := by
  cases kind with
  | login => exact fun _ => ⟨.login, by decide, rfl⟩
  | registerAccount => exact fun _ => ⟨.registerAccount, by decide, rfl⟩
  | joinOrganization => exact fun _ => ⟨.joinOrganization, by decide, rfl⟩
  | registerOrganization => exact opensPublicOnly_of_not_starts rfl
  | onboardingReview => exact opensPublicOnly_of_not_starts rfl
  | provision => exact opensPublicOnly_of_not_starts rfl
  | help => exact opensPublicOnly_of_not_starts rfl

/-- What the route of a command is: public, a login prompt for a protected command, and help for a
context that is not public. -/
structure RoutesCommand (command : String) (arguments : List String) (route : GuestChatRoute) :
    Prop where
  opens : route.OpensPublicOnly
  protectedLogin : command ∈ protectedCommands → route = loginRequiredRoute
  protectedContext : ∀ kind, kind ∉ publicContexts → command = "/context" →
    arguments = [kind.value] → route = helpRoute

/-- The help is the route of a command that is not protected. -/
theorem routesCommand_help {command : String} (h : command ∉ protectedCommands)
    (arguments : List String) : RoutesCommand command arguments helpRoute where
  opens := opensPublicOnly_of_not_starts rfl
  protectedLogin := fun hmem => absurd hmem h
  protectedContext := fun _ _ _ _ => rfl

/-- The command that no rule knows: only its first word counts. -/
theorem routeCommand_unknown {text command : String} {arguments : List String}
    (h : textWords text = command :: arguments)
    (hcontext : command = "/context" → ∀ kind : ChatContextKind, arguments ≠ [kind.value]) :
    ∃ route, routeCommand (plainCommand .unknown) text = .ok route ∧
      RoutesCommand command arguments route := by
  have hroute : routeCommand (plainCommand .unknown) text =
      .ok (if protectedCommands.contains command then loginRequiredRoute else helpRoute) := by
    show (do
      if ← isProtectedCommand text then return loginRequiredRoute
      return helpRoute) = _
    rw [isProtectedCommand_eq h]
    cases protectedCommands.contains command with
    | true => rfl
    | false => rfl
  refine ⟨_, hroute, ?_, ?_, fun kind _ hname hkind => absurd hkind (hcontext hname kind)⟩
  · split
    · exact opensPublicOnly_of_not_starts rfl
    · exact opensPublicOnly_of_not_starts rfl
  · intro hmem
    rw [if_pos (List.contains_iff_mem.2 hmem)]

/-- The context that an argument selects. -/
theorem routeCommand_context {text : String} {arguments : List String}
    (h : textWords text = "/context" :: arguments) :
    ∃ route, routeCommand (commandOf "/context" arguments) text = .ok route ∧
      RoutesCommand "/context" arguments route := by
  have hname : "/context" ∉ protectedCommands := by decide
  cases arguments with
  | nil =>
      refine ⟨_, rfl, opensPublicOnly_of_not_starts rfl, fun hmem => absurd hmem hname, ?_⟩
      rintro kind - - ⟨⟩
  | cons argument rest =>
      cases rest with
      | nil =>
          show ∃ route, routeCommand (match contextCommand argument with
            | some kind => ⟨.selectContext, some kind⟩
            | none => plainCommand .unknown) text = .ok route ∧ _
          cases hcommand : contextCommand argument with
          | none =>
              refine routeCommand_unknown h fun _ kind hkind => ?_
              rw [contextCommand_eq_some_iff.2 (List.cons.inj hkind).1] at hcommand
              cases hcommand
          | some kind =>
              show ∃ route, (if kind ∈ publicContexts then Except.ok (routePublicContext kind)
                else .ok helpRoute) = .ok route ∧ _
              split
              · rename_i hpublic
                refine ⟨_, rfl, opensPublicOnly_routePublicContext kind,
                  fun hmem => absurd hmem hname, fun kind' hno _ hkind => ?_⟩
                rw [contextCommand_eq_some_iff.2 (List.cons.inj hkind).1] at hcommand
                exact absurd (Option.some.inj hcommand ▸ hpublic) hno
              · exact ⟨_, rfl, routesCommand_help hname _⟩
      | cons argument' rest =>
          refine routeCommand_unknown h fun _ kind hkind => ?_
          cases (List.cons.inj hkind).2

/-- **What the route of a command is.** -/
theorem routeCommand_commandOf {text command : String} {arguments : List String}
    (h : textWords text = command :: arguments) :
    ∃ route, routeCommand (commandOf command arguments) text = .ok route ∧
      RoutesCommand command arguments route := by
  by_cases hcontext : command = "/context"
  · subst hcontext
    exact routeCommand_context h
  · unfold commandOf
    rw [if_neg hcontext]
    have hunknown := routeCommand_unknown h fun hname => absurd hname hcontext
    split
    · rename_i hlogin
      refine ⟨_, rfl, fun _ => ⟨.login, by decide, rfl⟩, ?_, fun _ _ hname => absurd hname hcontext⟩
      rw [hlogin.1]
      exact fun hmem => absurd hmem (by decide)
    · split
      · rename_i hresume
        refine ⟨_, rfl, routesCommand_help ?_ _⟩
        rw [hresume.1]
        decide
      · split
        · rename_i hcancel
          refine ⟨_, rfl, routesCommand_help ?_ _⟩
          rw [hcancel.1]
          decide
        · exact hunknown

/-! ### Where a guest stays public -/

/-- A text that asks for a session begins with a slash, or is no command at all. -/
theorem slash_of_mem_protectedCommands {command : String} (h : command ∈ protectedCommands) :
    ['/'].isPrefixOf command.toList = true := by
  have hall : ∀ command ∈ protectedCommands, ['/'].isPrefixOf command.toList = true := by decide
  exact hall command h

/-- The route of an ordinary text. -/
theorem guestRoute_none (candidateIntent : Option GuestIntakeIntent) (text : String) :
    ∃ route, guestRoute none candidateIntent text = .ok route ∧ route.OpensPublicOnly ∧
      (candidateIntent = some .protectedAction → route = loginRequiredRoute) := by
  rcases candidateIntent with _ | intent
  · exact ⟨_, rfl, opensPublicOnly_of_not_starts rfl, fun h => by cases h⟩
  · cases intent with
    | registerAccount =>
        exact ⟨_, rfl, fun _ => ⟨.registerAccount, by decide, rfl⟩, fun h => by cases h⟩
    | joinOrganization =>
        exact ⟨_, rfl, fun _ => ⟨.joinOrganization, by decide, rfl⟩, fun h => by cases h⟩
    | help => exact ⟨_, rfl, opensPublicOnly_of_not_starts rfl, fun h => by cases h⟩
    | protectedAction => exact ⟨_, rfl, opensPublicOnly_of_not_starts rfl, fun _ => rfl⟩

/-- A text is no command, and begins with no slash, or it is the command of its words. -/
theorem parseChatCommand_cases (text : String) :
    (parseChatCommand text = none ∧ ∀ command arguments, textWords text = command :: arguments →
        ['/'].isPrefixOf command.toList = false) ∨
      ∃ command arguments, textWords text = command :: arguments ∧
        parseChatCommand text = some (commandOf command arguments) := by
  rw [parseChatCommand_eq]
  cases textWords text with
  | nil => exact Or.inl ⟨rfl, fun command arguments h => by cases h⟩
  | cons command arguments =>
      dsimp only
      split
      · exact Or.inr ⟨command, arguments, rfl, rfl⟩
      · rename_i hslash
        refine Or.inl ⟨rfl, fun command' arguments' h => ?_⟩
        rw [← (List.cons.inj h).1]
        exact Bool.eq_false_iff.2 hslash

/-- **A guest stays on the public surface except for a text that selects a context that is not
public.** -/
theorem stays_public_iff (text : String) (candidateIntent : Option GuestIntakeIntent) :
    StaysPublic text candidateIntent ↔
      ¬ ∃ kind, kind ∉ publicContexts ∧ SelectsContext text kind := by
  rcases parseChatCommand_cases text with ⟨hparse, hslash⟩ | ⟨command, arguments, hwords, hparse⟩
  · have hno : ¬ ∃ kind, kind ∉ publicContexts ∧ SelectsContext text kind := by
      rintro ⟨kind, -, hselects⟩
      exact absurd (hslash _ _ hselects) (by decide)
    obtain ⟨route, hroute, hopens, hlogin⟩ := guestRoute_none candidateIntent text
    refine iff_of_true ⟨route, hparse ▸ hroute, hopens, ?_⟩ hno
    rintro (⟨command, hmem, hhead⟩ | hcontext | ⟨-, hintent⟩)
    · obtain ⟨arguments, hwords⟩ := List.head?_eq_some_iff.1 hhead
      have hstarts := slash_of_mem_protectedCommands hmem
      rw [hslash _ _ hwords] at hstarts
      cases hstarts
    · exact absurd hcontext hno
    · exact hlogin hintent
  · obtain ⟨route, hroute, hroutes⟩ := routeCommand_commandOf hwords
    have hguest : guestRoute (parseChatCommand text) candidateIntent text = .ok route := by
      rw [hparse]
      exact hroute
    constructor
    · rintro ⟨route', hroute', -, hlogin⟩ ⟨kind, hno, hselects⟩
      rw [hguest] at hroute'
      obtain rfl := Except.ok.inj hroute'
      -- the context falls through to the help
      have hselected : command = "/context" ∧ arguments = [kind.value] :=
        List.cons.inj (hwords.symm.trans hselects)
      have hhelp := hroutes.protectedContext kind hno hselected.1 hselected.2
      rw [hlogin (Or.inr (Or.inl ⟨kind, hno, hselects⟩))] at hhelp
      cases hhelp
    · intro hno
      refine ⟨route, hguest, hroutes.opens, ?_⟩
      rintro (⟨command', hmem, hhead⟩ | hcontext | ⟨hnone, -⟩)
      · rw [hwords] at hhead
        obtain rfl := Option.some.inj hhead
        exact hroutes.protectedLogin hmem
      · exact absurd hcontext hno
      · rw [hparse] at hnone
        cases hnone

/-- **A guest who selects the provisioning context is shown the help.** -/
theorem provision_context_shows_help :
    guestRoute (parseChatCommand "/context provision") none "/context provision" = .ok helpRoute ∧
      guestRoute (parseChatCommand "/provision") none "/provision" = .ok loginRequiredRoute ∧
      ¬ ∀ (text : String) (candidateIntent : Option GuestIntakeIntent),
        StaysPublic text candidateIntent := by
  have hhelp : guestRoute (parseChatCommand "/context provision") none "/context provision" =
      .ok helpRoute := by decide
  refine ⟨hhelp, by decide, fun hall => ?_⟩
  have hselects : SelectsContext "/context provision" .provision := by
    unfold SelectsContext
    decide
  obtain ⟨route, hroute, -, hlogin⟩ := hall "/context provision" none
  rw [hlogin (Or.inr (Or.inl ⟨.provision, by decide, hselects⟩)), hhelp] at hroute
  cases hroute

end PlatformOps
