import Threadwire.Domain.Errors

/-!
# Thread handles and conversation locators

`domain/ThreadIdentity.ts`. A conversation locator is the canonical URL of a conversation: the
origin and the path of any accepted spelling, without a trailing slash. The URL parser of the
platform is a parameter, `parseUrl`; the functions below read only the parts of the URL it returns.
The path patterns are decided on the list of the path's segments.
-/

namespace Threadwire

/-- The parts of a parsed URL that the locator checks read. -/
structure Url where
  protocol : String
  origin : String
  username : String
  password : String
  pathname : String
deriving DecidableEq, Repr

/-- `new URL(value)`: the parsed URL, or `none` where the constructor throws. -/
abbrev UrlParser := String → Option Url

/-- `CHATGPT_ORIGIN`. -/
def CHATGPT_ORIGIN : String := "https://chatgpt.com"

/-- The error of the `URL` constructor. -/
def invalidUrlError : ThrownError := { head := ⟨.typeError, "Invalid URL"⟩ }

/-- `ThreadHandle`. -/
abbrev ThreadHandle := String

/-- `ConversationLocator`. -/
abbrev ConversationLocator := String

/-- `ProjectLocator`. -/
abbrev ProjectLocator := String

/-- The parts of a path between its slashes. -/
def pathSegments (pathname : String) : List (List Char) := pathname.toList.splitOn '/'

/-- The class `[A-Za-z0-9_-]`. -/
def isOpaqueIdChar (c : Char) : Bool :=
  ('A' ≤ c && c ≤ 'Z') || ('a' ≤ c && c ≤ 'z') || ('0' ≤ c && c ≤ '9') || c == '_' || c == '-'

/-- The class `[a-z0-9]`. -/
def isLowerAlphanumeric (c : Char) : Bool := ('a' ≤ c && c ≤ 'z') || ('0' ≤ c && c ≤ '9')

/-- The class `[0-9a-f]`. -/
def isLowerHex (c : Char) : Bool := ('0' ≤ c && c ≤ '9') || ('a' ≤ c && c ≤ 'f')

/-- `EXISTING_CONVERSATION_PATH`: `/c/` and one segment, with an optional trailing slash. -/
def isExistingConversationPath (pathname : String) : Bool :=
  match pathSegments pathname with
  | [[], ['c'], conversation] => !conversation.isEmpty
  | [[], ['c'], conversation, []] => !conversation.isEmpty
  | _ => false

/-- The segment pattern `g-p-[A-Za-z0-9_-]+`. -/
def isProjectComponent (segment : List Char) : Bool :=
  match segment with
  | 'g' :: '-' :: 'p' :: '-' :: rest => !rest.isEmpty && rest.all isOpaqueIdChar
  | _ => false

/-- The capture of `PROJECT_CONVERSATION_PATH`: the project segment of the path of a conversation
inside a project. -/
def projectConversationComponent (pathname : String) : Option (List Char) :=
  match pathSegments pathname with
  | [[], ['g'], component, ['c'], conversation] =>
    if isProjectComponent component && !conversation.isEmpty then some component else none
  | [[], ['g'], component, ['c'], conversation, []] =>
    if isProjectComponent component && !conversation.isEmpty then some component else none
  | _ => none

/-- The capture of the project pattern: the project segment of a project's own path. -/
def projectPathComponent (pathname : String) : Option (List Char) :=
  match pathSegments pathname with
  | [[], ['g'], component, ['p', 'r', 'o', 'j', 'e', 'c', 't']] =>
    if isProjectComponent component then some component else none
  | _ => none

/-- `CANONICAL_PROJECT_COMPONENT`: `g-p-` and 32 lower-case hexadecimal digits. -/
def isCanonicalProjectComponent (segment : List Char) : Bool :=
  match segment with
  | 'g' :: '-' :: 'p' :: '-' :: rest => rest.length == 32 && rest.all isLowerHex
  | _ => false

/-- `PROJECT_CONVERSATION_SUFFIX`: dash-led groups of lower-case alphanumeric characters. -/
def isProjectConversationSuffix (suffix : List Char) : Bool :=
  match suffix with
  | '-' :: rest =>
    (rest.splitOn '-').all fun group => !group.isEmpty && group.all isLowerAlphanumeric
  | _ => false

/-- `createConversationLocator`. -/
def createConversationLocator (parseUrl : UrlParser) (value : String) :
    Except ThrownError ConversationLocator :=
  match parseUrl value with
  | none =>
    .error ((ThrownError.ofCode .conversationLocatorInvalid).withCause (some invalidUrlError))
  | some url =>
    if url.protocol ≠ "https:" ∨ url.origin ≠ CHATGPT_ORIGIN ∨ url.username ≠ "" ∨
        url.password ≠ "" ∨
        (!isExistingConversationPath url.pathname &&
          (projectConversationComponent url.pathname).isNone) = true then
      .error (.ofCode .conversationLocatorInvalid)
    else
      let path := url.pathname.toList
      let pathname := if path.getLast? = some '/' then path.dropLast else path
      .ok (CHATGPT_ORIGIN ++ String.ofList pathname)

/-- `conversationBelongsToProject`; it throws where one of the locators is not a URL. -/
def conversationBelongsToProject (parseUrl : UrlParser) (conversationLocator : ConversationLocator)
    (projectLocator : ProjectLocator) : Except ThrownError Bool :=
  match parseUrl conversationLocator, parseUrl projectLocator with
  | some conversation, some project =>
    match projectPathComponent project.pathname,
      projectConversationComponent conversation.pathname with
    | some projectComponent, some conversationComponent =>
      .ok (conversationComponent == projectComponent ||
        (isCanonicalProjectComponent projectComponent &&
          projectComponent.isPrefixOf conversationComponent &&
          isProjectConversationSuffix (conversationComponent.drop projectComponent.length)))
    | _, _ => .ok false
  | _, _ => .error invalidUrlError

/-- `isUnscopedConversationLocator`; it throws where the locator is not a URL. -/
def isUnscopedConversationLocator (parseUrl : UrlParser) (locator : ConversationLocator) :
    Except ThrownError Bool :=
  match parseUrl locator with
  | some url => .ok (isExistingConversationPath url.pathname)
  | none => .error invalidUrlError

/-- `createOpaqueThreadHandle`. -/
def createOpaqueThreadHandle (opaqueId : String) : Except ThrownError ThreadHandle :=
  if 1 ≤ opaqueId.toList.length ∧ opaqueId.toList.length ≤ 128 ∧
      opaqueId.toList.all isOpaqueIdChar = true then
    .ok ("tw_" ++ opaqueId)
  else
    .error
      { head := ⟨.typeError, "Thread handle factory returned an invalid opaque identifier."⟩ }

end Threadwire
