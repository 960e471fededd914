/-!
# Where pages stand

A static site has one file or one directory for each page, according to the builder that made it.
The options say what a page path is extended by, when the page is fetched and when it is linked.
-/

set_option autoImplicit false
set_option relaxedAutoImplicit false

namespace SiteSearch.Site

/-- The two layouts of a site. -/
inductive Builder where
  /-- One file for each page. -/
  | html
  /-- One directory for each page. -/
  | dirhtml
deriving DecidableEq, Repr

/-- The name of a builder. -/
def Builder.name : Builder → String
  | .html => "html"
  | .dirhtml => "dirhtml"

/-- What the site says about its pages. -/
structure Options where
  builder : Builder
  /-- What stands before every page path. -/
  urlRoot : String
  /-- What is added to a page path to fetch the page. -/
  fileSuffix : String
  /-- What is added to a page path to link to the page. -/
  linkSuffix : String
  /-- Whether a result without a description shows an excerpt of its page. -/
  showSummary : Bool
deriving DecidableEq, Repr

/-- The options of a site that says nothing. -/
def Options.initial : Options :=
  { builder := .html, urlRoot := "", fileSuffix := ".html", linkSuffix := ".html",
    showSummary := true }

/-- Where a page is fetched from, and what links to it. -/
structure PageUrls where
  request : String
  link : String
deriving DecidableEq, Repr

/-- The directory of a page: a last segment `index` stands for the directory it is in. -/
def folderOf (path : String) : String :=
  let cs := path.toList
  if cs = "index".toList then ""
  else if "/index".toList.isSuffixOf cs then .ofList (cs.take (cs.length - "index".toList.length))
  else path ++ "/"

/-- The URLs of a page. -/
def Options.pageUrls (o : Options) (path : String) : PageUrls :=
  match o.builder with
  | .html => ⟨o.urlRoot ++ path ++ o.fileSuffix, path ++ o.linkSuffix⟩
  | .dirhtml => ⟨o.urlRoot ++ folderOf path, o.urlRoot ++ folderOf path⟩

end SiteSearch.Site
