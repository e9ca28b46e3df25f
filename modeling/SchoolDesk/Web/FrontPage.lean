import SchoolDesk.Web.Site

/-!
# The front page

The site has one page.  It lists the activities, each with its schedule, the
number of its participants and the advertised number of places, and asks the
service for them when it is shown.
-/

namespace SchoolDesk.Web

/-- The lines of the front page. -/
def frontPageLines : List String :=
  ["<!DOCTYPE html>",
   "<html lang=\"en\">",
   "<head>",
   "  <meta charset=\"utf-8\">",
   "  <title>Mergington High School Activities</title>",
   "</head>",
   "<body>",
   "  <h1>Mergington High School Activities</h1>",
   "  <ul id=\"activities\"></ul>",
   "  <script>",
   "    fetch(\"/activities\")",
   "      .then((r) => r.json())",
   "      .then((activities) => \x7b",
   "        const list = document.getElementById(\"activities\");",
   "        for (const [name, details] of Object.entries(activities)) \x7b",
   "          const item = document.createElement(\"li\");",
   "          item.textContent = `$\x7bname\x7d: $\x7bdetails.schedule\x7d " ++
     "($\x7bdetails.participants.length\x7d/$\x7bdetails.max_participants\x7d)`;",
   "          list.appendChild(item);",
   "        \x7d",
   "      \x7d);",
   "  </script>",
   "</body>",
   "</html>"]

/-- The front page. -/
def frontPage : Page where
  contentType := "text/html"
  text := String.join (frontPageLines.map fun line => line ++ "\n")
  modified := Date.seconds ⟨2026, 1, 1, 0, 0, 0⟩

/-- The site whose index is the front page. -/
def Site.standard : Site := { pages := [(Site.indexName, frontPage)] }

end SchoolDesk.Web
