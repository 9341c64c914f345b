/-!
# Symbols

The fixed table of the markup: six characters name tags, and dotted keys name fragments of inline
style. Keys are matched exactly.
-/

namespace TalPage.Markup

/-- The character that opens the root element. -/
def rootMarker : Char := '^'

/-- The tag of an element that names none. -/
def defaultTag : String := "div"

/-- The tag characters and the tags they stand for. -/
def tags : List (Char × String) :=
  [('^', "main"), ('s', "section"), ('d', "div"), ('t', "p"), ('h', "h1"), ('b', "button")]

/-- The style classes, without their dot, and the fragments they stand for. -/
def styles : List (String × String) :=
  [("f", "display:flex; flex-direction:column; gap:1.5rem;"),
    ("fr", "display:flex; flex-direction:row; gap:0;"),
    ("row", "display:flex; flex-direction:row; gap:1.5rem; align-items:center;"),
    ("jc", "justify-content:center; text-align:center;"),
    ("jb", "justify-content:space-between;"),
    ("g2", "display:grid; grid-template-columns:repeat(2, 1fr); gap:1.5rem;"),
    ("g3",
      "display:grid; grid-template-columns:repeat(auto-fit, minmax(280px, 1fr)); gap:1.5rem;"),
    ("sidebar",
      "width:280px; flex-shrink:0; border-right:1px solid #334155; padding:2rem; " ++
      "display:flex; flex-direction:column; gap:1rem; height:100vh; position:sticky; " ++
      "top:0; background:rgba(15, 23, 42, 0.95);"),
    ("main", "flex:1; padding:3rem; overflow-y:auto; height:100vh;"),
    ("w100", "width:100%;"),
    ("dark",
      "background-color:#0f172a; color:#f8fafc; min-height:100vh; " ++
      "font-family: system-ui, sans-serif; overflow:hidden;"),
    ("card",
      "background-color:rgba(30, 41, 59, 0.7); backdrop-filter:blur(12px); " ++
      "border-radius:1rem; padding:1.5rem; border:1px solid rgba(255,255,255,0.1); " ++
      "transition: transform 0.2s;"),
    ("sh", "box-shadow: 0 10px 15px -3px rgba(0, 0, 0, 0.3);"),
    ("code",
      "font-family:monospace; background:#020617; padding:0.4em 0.6em; " ++
      "border-radius:0.375rem; color:#a5b4fc; font-size:0.9em; border:1px solid #1e293b; " ++
      "display:block; margin-top:0.5rem; white-space:pre-wrap;"),
    ("badge",
      "display:inline-block; padding:0.25rem 0.75rem; border-radius:9999px; " ++
      "font-size:0.75rem; font-weight:700; background:#06b6d4; color:#0f172a;"),
    ("h1",
      "font-size:3.5rem; line-height:1.1; font-weight:900; letter-spacing:-0.05em; " ++
      "background: linear-gradient(to right, #fff, #94a3b8); " ++
      "-webkit-background-clip: text; -webkit-text-fill-color: transparent;"),
    ("h2", "font-size:2rem; line-height:2.5rem; font-weight:700; margin-bottom:0.5rem;"),
    ("h3", "font-size:1.25rem; font-weight:600; color:#e2e8f0;"),
    ("sub", "color:#94a3b8; font-size:1rem; line-height:1.6;"),
    ("btn",
      "background-color:#06b6d4; color:#0f172a; font-weight:700; padding:0.75rem 1.5rem; " ++
      "border-radius:0.5rem; border:none; cursor:pointer; transition: all 0.2s; text-align:center;"),
    ("btn2",
      "background-color:#334155; color:#f8fafc; font-weight:600; padding:0.75rem 1.5rem; " ++
      "border-radius:0.5rem; border:none; cursor:pointer; transition: all 0.2s; " ++
      "text-align:center; hover:bg-slate-700;"),
    ("btn:hover",
      "transform:translateY(-1px); box-shadow:0 10px 15px -3px rgba(6, 182, 212, 0.2);")]

/-- The tag that a character stands for. -/
def tagName? (c : Char) : Option String :=
  tags.lookup c

/-- The fragment that a style class stands for. -/
def styleFragment? (name : String) : Option String :=
  styles.lookup name

/-- All symbols as they are written, with their expansions: the tags, then the style classes. -/
def symbols : List (String × String) :=
  tags.map (fun (c, tag) => (c.toString, tag)) ++ styles.map fun (name, style) => ("." ++ name, style)

/-- The expansion of a symbol as it is written. -/
def expansion? (key : String) : Option String :=
  symbols.lookup key

/-- Whether a text is a single tag character. -/
def isTagSymbol (key : String) : Bool :=
  tags.any fun (c, _) => c.toString == key

end TalPage.Markup
