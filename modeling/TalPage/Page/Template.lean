import TalPage.Config.Basic
import TalPage.Json.Script
import TalPage.Markup.Element
import TalPage.Page.Escape

/-!
# The page

The fixed text around a body: a head with title and styles, and a script that shows one section at a
time. Title and language are escaped for HTML, the rest of the settings stand in the script as JSON,
and the body is put in as it is.
-/

namespace TalPage.Page

open Text (Points)

/-- The page up to the language. -/
def opening : String :=
  "<!DOCTYPE html>\n" ++
  "<html lang=\""

/-- From the language to the title. -/
def afterLang : String :=
  "\">\n" ++
  "<head>\n" ++
  "    <meta charset=\"UTF-8\">\n" ++
  "    <meta name=\"viewport\" content=\"width=device-width, initial-scale=1.0\">\n" ++
  "    <title>"

/-- From the title to the body: the end of the head, with the styles. -/
def afterTitle : String :=
  "</title>\n" ++
  "    <style>\n" ++
  "      /* Reset & Base */\n" ++
  "      *, *::before, *::after \x7b box-sizing: border-box; margin: 0; padding: 0; \x7d\n" ++
  "      body \x7b line-height: 1.5; -webkit-font-smoothing: antialiased; \x7d\n" ++
  "      img, picture, video, canvas, svg \x7b display: block; max-width: 100%; \x7d\n" ++
  "      input, button, textarea, select \x7b font: inherit; \x7d\n" ++
  "\n" ++
  "      /* Navigation transitions */\n" ++
  "      section \x7b animation: fadeIn 0.3s ease-out; \x7d\n" ++
  "      @keyframes fadeIn \x7b from \x7b opacity: 0; transform: translateY(10px); \x7d to " ++
  "\x7b opacity: 1; transform: translateY(0); \x7d \x7d\n" ++
  "    </style>\n" ++
  "</head>\n" ++
  "<body>\n" ++
  "    "

/-- From the body to the routes: the start of the script. -/
def afterBody : String :=
  "\n" ++
  "    <script>\n" ++
  "      const " ++
  Markup.dispatcherName ++
  " = \x7b\n" ++
  "        routes: "

/-- From the routes to the sections. -/
def afterRoutes : String :=
  ",\n" ++
  "        sections: "

/-- From the sections to the display of a section: how actions are dispatched. -/
def afterSections : String :=
  ",\n" ++
  "        dispatch(action) \x7b\n" ++
  "          if (Object.prototype.hasOwnProperty.call(this.routes, action)) \x7b\n" ++
  "            this.navigate(this.routes[action]);\n" ++
  "          \x7d else \x7b\n" ++
  "            console.log('Action:', action);\n" ++
  "          \x7d\n" ++
  "        \x7d,\n" ++
  "        navigate(targetId) \x7b\n" ++
  "          this.sections.forEach(id => \x7b\n" ++
  "            const el = document.getElementById(id);\n" ++
  "            if (el) el.style.display = 'none';\n" ++
  "          \x7d);\n" ++
  "\n" ++
  "          const target = document.getElementById(targetId);\n" ++
  "          if (target) \x7b\n" ++
  "            target.style.display = "

/-- From the display of a section to the section shown first. -/
def afterDisplay : String :=
  ";\n" ++
  "          \x7d\n" ++
  "        \x7d\n" ++
  "      \x7d;\n" ++
  "\n" ++
  "      window.onload = () => \x7b\n" ++
  "        " ++
  Markup.dispatcherName ++
  ".navigate("

/-- The rest of the script and of the page. -/
def closing : String :=
  ");\n" ++
  "      \x7d;\n" ++
  "    </script>\n" ++
  "</body>\n" ++
  "</html>"

/-- Routes as one object. -/
def routesJson (routes : List (Points × Points)) : Json :=
  .object (routes.map fun (action, target) => (action, .string target))

/-- The page around a body, without a build label. -/
def unlabelled (config : PageConfig) (body : Points) : Points :=
  opening ++ escape config.lang ++
  afterLang ++ escape config.title ++
  afterTitle ++ body ++
  afterBody ++ (routesJson config.routes).scriptText ++
  afterRoutes ++ (Json.array (config.sections.map .string)).scriptText ++
  afterSections ++ (Json.string config.sectionDisplay).scriptText ++
  afterDisplay ++ (Json.string config.homeSection).scriptText ++
  closing

/-- The comment that holds a build label; an empty label has none. -/
def labelComment : Option Points → Points
  | none => []
  | some label => if label = [] then [] else "\n<!-- talgen build: " ++ label ++ " -->\n"

/-- The page around a body. -/
def render (config : PageConfig) (body : Points) (label : Option Points) : Points :=
  unlabelled config body ++ labelComment label

end TalPage.Page
