import Threadwire.Domain.ProjectIdentity
import Threadwire.Turn.Types

/-!
# Route checks

`routeMatchesExpected` of `cdp/ChromeRemoteInterfaceHelpers.ts`.
-/

namespace Threadwire

/-- `routeMatchesExpected`. -/
def routeMatchesExpected (platform : Whatwg.UrlPlatform) (rawUrl : String) :
    RouteExpectation → Bool
  | .freshRoot =>
    match urlParser platform rawUrl with
    | some url => url.origin == CHATGPT_ORIGIN && url.pathname == "/"
    | none => false
  | .projectRoot locator =>
    match createProjectLocator platform rawUrl with
    | .ok normalized => normalized == locator
    | .error _ => false
  | .thread locator =>
    match createConversationLocator (urlParser platform) rawUrl with
    | .ok normalized => normalized == locator
    | .error _ => false

end Threadwire
