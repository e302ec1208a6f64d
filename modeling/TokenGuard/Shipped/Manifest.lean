import TokenGuard.Manifest

/-! The manifest that comes with the program. -/

namespace TokenGuard.Shipped

/-- The color scales. -/
def colorPrimitives : ScaledTable := .ofList
  [("titanium", .ofStrings
      [("50", "oklch(0.99 0.002 275)"), ("100", "oklch(0.965 0.004 275)"),
        ("200", "oklch(0.92 0.008 275)"), ("300", "oklch(0.84 0.012 275)"),
        ("400", "oklch(0.68 0.020 275)"), ("500", "oklch(0.55 0.025 275)"),
        ("600", "oklch(0.43 0.022 275)"), ("700", "oklch(0.34 0.018 275)"),
        ("800", "oklch(0.26 0.014 275)"), ("900", "oklch(0.20 0.012 275)"),
        ("950", "oklch(0.12 0.015 275)")]),
    ("indigo", .ofStrings
      [("50", "oklch(0.97 0.015 275)"), ("100", "oklch(0.93 0.030 275)"),
        ("200", "oklch(0.87 0.060 275)"), ("300", "oklch(0.79 0.110 275)"),
        ("400", "oklch(0.68 0.180 275)"), ("500", "oklch(0.55 0.250 275)"),
        ("600", "oklch(0.48 0.280 275)"), ("700", "oklch(0.42 0.240 275)"),
        ("800", "oklch(0.35 0.180 275)"), ("900", "oklch(0.28 0.120 275)")]),
    ("cyan", .ofStrings
      [("50", "oklch(0.98 0.015 200)"), ("400", "oklch(0.79 0.160 205)"),
        ("500", "oklch(0.75 0.180 200)"), ("600", "oklch(0.62 0.150 200)"),
        ("800", "oklch(0.45 0.100 200)")]),
    ("emerald", .ofStrings
      [("50", "oklch(0.96 0.025 165)"), ("500", "oklch(0.65 0.200 162)"),
        ("700", "oklch(0.50 0.170 163)")]),
    ("amber", .ofStrings
      [("50", "oklch(0.98 0.035 90)"), ("500", "oklch(0.77 0.220 68)"),
        ("700", "oklch(0.55 0.160 66)")]),
    ("red", .ofStrings
      [("50", "oklch(0.97 0.020 20)"), ("500", "oklch(0.64 0.280 25)"),
        ("700", "oklch(0.51 0.240 27)")])]

/-- Colors by their role. -/
def semantics : FlatTable := .ofStrings
  [("canvas", "var(--nx-titanium-50)"), ("surface", "#ffffff"),
    ("surface-well", "var(--nx-titanium-100)"), ("raised", "#ffffff"), ("overlay", "#ffffff"),
    ("selected", "var(--nx-titanium-100)"), ("border", "var(--nx-titanium-200)"),
    ("border-strong", "var(--nx-titanium-300)"), ("divider", "var(--nx-titanium-200)"),
    ("text-main", "var(--nx-titanium-900)"), ("text-sub", "var(--nx-titanium-600)"),
    ("text-muted", "var(--nx-titanium-500)"), ("text-faint", "var(--nx-titanium-400)"),
    ("text-inverse", "#ffffff"), ("primary", "var(--nx-indigo-600)"),
    ("primary-hover", "var(--nx-indigo-700)"), ("primary-foreground", "#ffffff"),
    ("primary-light", "var(--nx-indigo-50)"), ("secondary", "var(--nx-titanium-700)"),
    ("secondary-hover", "var(--nx-titanium-800)"), ("secondary-foreground", "#ffffff"),
    ("ghost", "transparent"), ("ghost-hover", "var(--nx-titanium-100)"),
    ("link", "var(--nx-cyan-500)"), ("link-hover", "var(--nx-cyan-600)"),
    ("success", "var(--nx-emerald-500)"), ("success-bg", "var(--nx-emerald-50)"),
    ("success-text", "var(--nx-emerald-700)"), ("warning", "var(--nx-amber-500)"),
    ("warning-bg", "var(--nx-amber-50)"), ("warning-text", "var(--nx-amber-700)"),
    ("danger", "var(--nx-red-500)"), ("danger-bg", "var(--nx-red-50)"),
    ("danger-text", "var(--nx-red-700)"), ("info", "var(--nx-cyan-500)"),
    ("info-bg", "var(--nx-cyan-50)"), ("info-text", "var(--nx-cyan-600)"),
    ("ring", "var(--nx-indigo-600)"), ("scrim", "oklch(0.12 0.015 275 / 0.45)")]

/-- Sizes and weights of type. -/
def typography : FlatTable := .ofStrings
  [("font-sans", "-apple-system, BlinkMacSystemFont, \"Segoe UI\", Roboto, \"Helvetica Neue\", Arial, sans-serif"),
    ("font-mono", "\"SF Mono\", Monaco, \"Cascadia Code\", \"Roboto Mono\", Consolas, \"Courier New\", monospace"),
    ("display-size", "2.25rem"), ("display-line", "2.75rem"), ("title-size", "1.5rem"),
    ("title-line", "2rem"), ("section-size", "1.125rem"), ("section-line", "1.75rem"),
    ("body-size", "0.875rem"), ("body-line", "1.5rem"), ("caption-size", "0.75rem"),
    ("caption-line", "1.25rem"), ("micro-size", "0.6875rem"), ("micro-line", "1rem"),
    ("weight-regular", "400"), ("weight-medium", "500"), ("weight-semibold", "600"),
    ("weight-bold", "700"), ("tracking-tight", "-0.015em"), ("tracking-normal", "0"),
    ("tracking-wide", "0.025em")]

/-- The spacing steps. -/
def spacing : FlatTable := .ofStrings
  [("0", "0"), ("1", "0.25rem"), ("2", "0.5rem"), ("3", "0.75rem"), ("4", "1rem"),
    ("5", "1.25rem"), ("6", "1.5rem"), ("8", "2rem"), ("10", "2.5rem"), ("12", "3rem"),
    ("16", "4rem")]

/-- Spacing by its role. -/
def spacingSemantic : FlatTable := .ofStrings
  [("inline-tight", "var(--nx-space-2)"), ("inline", "var(--nx-space-3)"),
    ("inline-loose", "var(--nx-space-4)"), ("stack-tight", "var(--nx-space-3)"),
    ("stack", "var(--nx-space-4)"), ("stack-loose", "var(--nx-space-6)"),
    ("section", "var(--nx-space-8)"), ("page", "var(--nx-space-12)")]

/-- Sizes of controls and containers. -/
def sizing : FlatTable := .ofStrings
  [("container-max", "80rem"), ("header-h", "4.25rem"), ("sidebar-w", "17.5rem"),
    ("sidebar-w-collapsed", "4.25rem"), ("drawer-w", "24rem"), ("content-max", "72rem"),
    ("content-pad", "1.5rem")]

/-- The radii of corners. -/
def radius : FlatTable := .ofStrings
  [("xs", "0.5rem"), ("sm", "0.75rem"), ("md", "1rem"), ("lg", "1.25rem"),
    ("control", "var(--nx-radius-sm)")]

/-- The widths of borders. -/
def border : FlatTable := .ofStrings
  [("1", "1px"), ("2", "2px")]

/-- The shadows. -/
def shadow : FlatTable := .ofStrings
  [("0", "none"), ("1", "0 1px 2px 0 rgb(0 0 0 / 0.05)"),
    ("2", "0 1px 3px 0 rgb(0 0 0 / 0.1), 0 1px 2px -1px rgb(0 0 0 / 0.1)"),
    ("3", "0 4px 6px -1px rgb(0 0 0 / 0.1), 0 2px 4px -2px rgb(0 0 0 / 0.1)"),
    ("4", "0 10px 15px -3px rgb(0 0 0 / 0.1), 0 4px 6px -4px rgb(0 0 0 / 0.1)"),
    ("5", "0 20px 25px -5px rgb(0 0 0 / 0.1), 0 8px 10px -6px rgb(0 0 0 / 0.1)")]

/-- The layers. -/
def zindex : FlatTable := .ofStrings
  [("base", "0"), ("sticky", "10"), ("overlay", "20"), ("dropdown", "30"), ("popover", "40"),
    ("tooltip", "50"), ("scrim", "60"), ("modal", "70"), ("toast", "80"), ("debug", "90")]

/-- Durations and easings. -/
def motion : FlatTable := .ofStrings
  [("dur-fast", "140ms"), ("dur-base", "220ms"), ("dur-slow", "360ms"),
    ("ease-standard", "cubic-bezier(0.2, 0.9, 0.2, 1)"),
    ("ease-emphasized", "cubic-bezier(0.2, 0, 0, 1)"), ("lift-1", "2px"), ("lift-2", "4px"),
    ("slide-1", "8px"), ("slide-2", "16px")]

/-- The breakpoints. -/
def breakpoints : FlatTable := .ofStrings
  [("sm", "40rem"), ("md", "48rem"), ("lg", "64rem"), ("xl", "80rem"), ("2xl", "96rem")]

/-- Colors for displays that cannot show the color scales. -/
def srgbFallbacks : FlatTable := .ofStrings
  [("indigo-600", "oklch(0.48 0.200 275)"), ("indigo-500", "oklch(0.55 0.180 275)"),
    ("cyan-500", "oklch(0.75 0.140 200)"), ("emerald-500", "oklch(0.65 0.160 162)"),
    ("amber-500", "oklch(0.77 0.180 68)"), ("red-500", "oklch(0.64 0.230 25)")]

/-- All tables by name. -/
def tables : OrderedMap TokenTable := .ofList
  [("COLOR_PRIMITIVES", .scaled colorPrimitives),
    ("SEMANTICS", .flat semantics),
    ("TYPOGRAPHY", .flat typography),
    ("SPACING", .flat spacing),
    ("SPACING_SEMANTIC", .flat spacingSemantic),
    ("SIZING", .flat sizing),
    ("RADIUS", .flat radius),
    ("BORDER", .flat border),
    ("SHADOW", .flat shadow),
    ("ZINDEX", .flat zindex),
    ("MOTION", .flat motion),
    ("BREAKPOINTS", .flat breakpoints),
    ("SRGB_FALLBACKS", .flat srgbFallbacks)]

/-- Raw colors, arbitrary values and legacy names. -/
def forbiddenPatterns : List Text :=
  List.map String.toList
    ["bg-blue-", "bg-red-", "bg-green-", "bg-gray-", "bg-slate-", "bg-zinc-", "bg-neutral-",
      "bg-stone-", "bg-orange-", "bg-amber-", "bg-yellow-", "bg-lime-", "bg-emerald-", "bg-teal-",
      "bg-cyan-", "bg-sky-", "bg-indigo-", "bg-violet-", "bg-purple-", "bg-fuchsia-", "bg-pink-",
      "bg-rose-", "text-blue-", "text-red-", "text-green-", "text-gray-", "text-slate-",
      "text-zinc-", "text-neutral-", "text-stone-", "text-indigo-", "text-violet-", "text-purple-",
      "border-blue-", "border-red-", "border-green-", "border-gray-", "bg-[#", "text-[#",
      "border-[#", "ring-[#", "fill-[#", "stroke-[#", "na-", "aibos", "AIBOS"]

/-- The palette of raw colors. -/
def rawPalette : RawPalette where
  utilities := ["bg", "text", "border"]
  names :=
    ["gray", "blue", "red", "green", "yellow", "orange", "purple", "pink", "indigo", "violet",
      "slate", "zinc", "neutral", "stone", "amber", "emerald", "teal", "cyan", "sky", "lime",
      "fuchsia", "rose"]

/-- The manifest. -/
def manifest : Manifest where
  version := ⟨1, 0, 0, [], []⟩
  tables := tables
  forbiddenPatterns := forbiddenPatterns
  rawPalette := rawPalette

end TokenGuard.Shipped
