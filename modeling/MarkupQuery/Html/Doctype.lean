import MarkupQuery.Html.Token

/-!
# Document types

A document type is *known* if the standard lists it as well-formed. Some document types, and a
document without any, stand for a document in the old layout mode, in which a table does not end a
paragraph (`Doctype.isLegacy`).
-/

namespace MarkupQuery.Html.Doctype

/-- The pairs of identifiers that a document type of HTML may have. -/
def knownIds : List (Option String × Option String) :=
  [(none, none),
   (none, some "about:legacy-compat"),
   (some "-//W3C//DTD HTML 4.0//EN", none),
   (some "-//W3C//DTD HTML 4.0//EN", some "http://www.w3.org/TR/REC-html40/strict.dtd"),
   (some "-//W3C//DTD HTML 4.01//EN", none),
   (some "-//W3C//DTD HTML 4.01//EN", some "http://www.w3.org/TR/html4/strict.dtd"),
   (some "-//W3C//DTD XHTML 1.0 Strict//EN",
    some "http://www.w3.org/TR/xhtml1/DTD/xhtml1-strict.dtd"),
   (some "-//W3C//DTD XHTML 1.1//EN", some "http://www.w3.org/TR/xhtml11/DTD/xhtml11.dtd")]

/-- Whether a document type is well-formed. -/
def isKnown (d : Doctype) : Bool :=
  d.name = some "html" && knownIds.contains (d.publicId, d.systemId)

/-- The beginnings of public identifiers, in small letters, that stand for the old layout mode. -/
def legacyPublicStarts : List String :=
  ["-//advasoft ltd//dtd html 3.0 aswedit + extensions//",
   "-//as//dtd html 3.0 aswedit + extensions//",
   "-//ietf//dtd html 2.0 level 1//",
   "-//ietf//dtd html 2.0 level 2//",
   "-//ietf//dtd html 2.0 strict level 1//",
   "-//ietf//dtd html 2.0 strict level 2//",
   "-//ietf//dtd html 2.0 strict//",
   "-//ietf//dtd html 2.0//",
   "-//ietf//dtd html 2.1e//",
   "-//ietf//dtd html 3.0//",
   "-//ietf//dtd html 3.2 final//",
   "-//ietf//dtd html 3.2//",
   "-//ietf//dtd html 3//",
   "-//ietf//dtd html level 0//",
   "-//ietf//dtd html level 1//",
   "-//ietf//dtd html level 2//",
   "-//ietf//dtd html level 3//",
   "-//ietf//dtd html strict level 0//",
   "-//ietf//dtd html strict level 1//",
   "-//ietf//dtd html strict level 2//",
   "-//ietf//dtd html strict level 3//",
   "-//ietf//dtd html strict//",
   "-//ietf//dtd html//",
   "-//metrius//dtd metrius presentational//",
   "-//microsoft//dtd internet explorer 2.0 html strict//",
   "-//microsoft//dtd internet explorer 2.0 html//",
   "-//microsoft//dtd internet explorer 2.0 tables//",
   "-//microsoft//dtd internet explorer 3.0 html strict//",
   "-//microsoft//dtd internet explorer 3.0 html//",
   "-//microsoft//dtd internet explorer 3.0 tables//",
   "-//netscape comm. corp.//dtd html//",
   "-//netscape comm. corp.//dtd strict html//",
   "-//o'reilly and associates//dtd html 2.0//",
   "-//o'reilly and associates//dtd html extended 1.0//",
   "-//o'reilly and associates//dtd html extended relaxed 1.0//",
   "-//softquad software//dtd hotmetal pro 6.0::19990601::extensions to html 4.0//",
   "-//softquad//dtd hotmetal pro 4.0::19971010::extensions to html 4.0//",
   "-//spyglass//dtd html 2.0 extended//",
   "-//sq//dtd html 2.0 hotmetal + extensions//",
   "-//sun microsystems corp.//dtd hotjava html//",
   "-//sun microsystems corp.//dtd hotjava strict html//",
   "-//w3c//dtd html 3 1995-03-24//",
   "-//w3c//dtd html 3.2 draft//",
   "-//w3c//dtd html 3.2 final//",
   "-//w3c//dtd html 3.2//",
   "-//w3c//dtd html 3.2s draft//",
   "-//w3c//dtd html 4.0 frameset//",
   "-//w3c//dtd html 4.0 transitional//",
   "-//w3c//dtd html experimental 19960712//",
   "-//w3c//dtd html experimental 970421//",
   "-//w3c//dtd w3 html//",
   "-//w3o//dtd w3 html 3.0//",
   "-//webtechs//dtd mozilla html 2.0//",
   "-//webtechs//dtd mozilla html//"]

/-- The public identifiers, in small letters, that stand for the old layout mode. -/
def legacyPublicIds : List String :=
  ["-//w3o//dtd w3 html strict 3.0//en//", "-/w3c/dtd html 4.0 transitional/en", "html"]

/-- The system identifiers, in small letters, that stand for the old layout mode. -/
def legacySystemIds : List String :=
  ["http://www.ibm.com/data/dtd/v11/ibmxhtml1-transitional.dtd"]

/-- The beginnings of public identifiers that stand for the old layout mode if there is no system
identifier. -/
def lonePublicStarts : List String :=
  ["-//w3c//dtd html 4.01 frameset//", "-//w3c//dtd html 4.01 transitional//"]

/-- Whether a text begins with one of some texts. -/
def beginsWithOne (starts : List String) (s : String) : Bool :=
  starts.any fun start => start.toList.isPrefixOf s.toList

/-- Whether a document type stands for the old layout mode. -/
def isLegacy (d : Doctype) : Bool :=
  let publicId := d.publicId.map fun s => String.ofList (s.toList.map Char.toLower)
  let systemId := d.systemId.map fun s => String.ofList (s.toList.map Char.toLower)
  d.forceLegacy || d.name != some "html" ||
    publicId.any (fun p => legacyPublicIds.contains p || beginsWithOne legacyPublicStarts p) ||
    systemId.any legacySystemIds.contains ||
    (systemId.isNone && publicId.any (beginsWithOne lonePublicStarts))

end MarkupQuery.Html.Doctype
