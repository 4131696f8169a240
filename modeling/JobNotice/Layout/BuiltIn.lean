import JobNotice.Layout.Straight

/-!
# The layouts that come with the program

Both are straight layouts. The one in HTML shows every slot, the one in plain text all but the logo.

## Main definitions

* `Layout.builtInHtml`, `Layout.builtInText` — the layouts that are used when none are given
* `Layout.builtIn` — the template of these layouts
-/

namespace JobNotice.Layout

/-- Lines of text, with a line feed between each two. -/
def lines (texts : List String) : String := "\n".intercalate texts

/-- The built-in layout in HTML. -/
def builtInHtml : List Piece :=
  [
    .text (lines [
      "<!DOCTYPE html>",
      "<html lang=\"en\">",
      "<head>",
      "    <meta charset=\"utf-8\">",
      "    <meta name=\"viewport\" content=\"width=device-width, initial-scale=1.0\">",
      "    <title>"]),
    .slot .title,
    .text (lines [
      "</title>",
      "    <style>",
      "        body \x7b",
      "            font-family: -apple-system, BlinkMacSystemFont, 'Segoe UI', Roboto, 'Helvetica Neue', Arial, sans-serif;",
      "            margin: 0;",
      "            padding: 0;",
      "            background-color: #f4f6f8;",
      "            color: #1f2937;",
      "            -webkit-font-smoothing: antialiased;",
      "        \x7d",
      "        .container \x7b",
      "            max-width: 600px;",
      "            margin: 0 auto;",
      "            padding: 32px 16px;",
      "        \x7d",
      "        .card \x7b",
      "            background-color: #ffffff;",
      "            border-radius: 8px;",
      "            box-shadow: 0 2px 8px rgba(0, 0, 0, 0.06);",
      "            overflow: hidden;",
      "        \x7d",
      "        .header \x7b",
      "            background-color: #1e3a5f;",
      "            color: #ffffff;",
      "            padding: 24px;",
      "            text-align: center;",
      "        \x7d",
      "        .header .logo \x7b",
      "            display: block;",
      "            margin: 0 auto 12px;",
      "            max-height: 48px;",
      "        \x7d",
      "        .header h1 \x7b",
      "            margin: 0;",
      "            font-size: 22px;",
      "            font-weight: 600;",
      "        \x7d",
      "        .status-banner \x7b",
      "            padding: 14px 24px;",
      "            font-size: 18px;",
      "            font-weight: 700;",
      "            text-align: center;",
      "            letter-spacing: 0.05em;",
      "        \x7d",
      "        .status-success \x7b",
      "            background-color: #dcfce7;",
      "            color: #166534;",
      "        \x7d",
      "        .status-failure \x7b",
      "            background-color: #fee2e2;",
      "            color: #991b1b;",
      "        \x7d",
      "        .content \x7b",
      "            padding: 24px;",
      "        \x7d",
      "        .content p \x7b",
      "            margin: 0 0 16px;",
      "            line-height: 1.6;",
      "        \x7d",
      "        .details \x7b",
      "            width: 100%;",
      "            border-collapse: collapse;",
      "            background-color: #f9fafb;",
      "            border-radius: 6px;",
      "            margin: 16px 0;",
      "        \x7d",
      "        .details th \x7b",
      "            text-align: left;",
      "            color: #6b7280;",
      "            font-weight: 500;",
      "            padding: 8px 12px;",
      "            width: 140px;",
      "            vertical-align: top;",
      "        \x7d",
      "        .details td \x7b",
      "            padding: 8px 12px;",
      "            color: #111827;",
      "        \x7d",
      "        .stages ol \x7b",
      "            margin: 8px 0 16px;",
      "            padding-left: 24px;",
      "        \x7d",
      "        .stages code, .details code \x7b",
      "            font-family: SFMono-Regular, Menlo, Consolas, monospace;",
      "            font-size: 13px;",
      "        \x7d",
      "        .error-block \x7b",
      "            background-color: #fef2f2;",
      "            border-left: 4px solid #ef4444;",
      "            padding: 12px 16px;",
      "            margin: 16px 0;",
      "        \x7d",
      "        .error-block pre \x7b",
      "            margin: 8px 0 0;",
      "            white-space: pre-wrap;",
      "            word-break: break-word;",
      "            font-size: 13px;",
      "        \x7d",
      "        .button-container \x7b",
      "            text-align: center;",
      "            margin: 28px 0 8px;",
      "        \x7d",
      "        .button \x7b",
      "            display: inline-block;",
      "            background-color: #2563eb;",
      "            color: #ffffff !important;",
      "            text-decoration: none;",
      "            padding: 12px 28px;",
      "            border-radius: 6px;",
      "            font-weight: 500;",
      "        \x7d",
      "        .footer \x7b",
      "            padding: 20px 24px;",
      "            text-align: center;",
      "            color: #9ca3af;",
      "            font-size: 12px;",
      "            border-top: 1px solid #f3f4f6;",
      "        \x7d",
      "        .footer a \x7b",
      "            color: #2563eb;",
      "            text-decoration: none;",
      "        \x7d",
      "    </style>",
      "</head>",
      "<body>",
      "    <div class=\"container\">",
      "        <div class=\"card\">",
      "            <div class=\"header\">",
      "                "]),
    .slot .logo,
    .text (lines ["", "                <h1>"]),
    .slot .title,
    .text (lines ["</h1>", "            </div>", "            "]),
    .slot .statusBanner,
    .text (lines ["", "            <div class=\"content\">", "                "]),
    .slot .greeting,
    .text (lines ["", "                "]),
    .slot .jobDetails,
    .text (lines ["", "                "]),
    .slot .stages,
    .text (lines ["", "                "]),
    .slot .branchContent,
    .text (lines ["", "                "]),
    .slot .action,
    .text (lines [
      "",
      "            </div>",
      "            <div class=\"footer\">",
      "                "]),
    .slot .footer,
    .text (lines [
      "",
      "            </div>",
      "        </div>",
      "    </div>",
      "</body>",
      "</html>",
      ""])
  ]

/-- The built-in layout in plain text. -/
def builtInText : List Piece :=
  [
    .slot .title,
    .text "\n",
    .slot .statusBanner,
    .text (lines ["", "", ""]),
    .slot .greeting,
    .text (lines ["", "", ""]),
    .slot .jobDetails,
    .text "\n",
    .slot .stages,
    .text "\n",
    .slot .branchContent,
    .text "\n",
    .slot .action,
    .text (lines ["", "", "---", ""]),
    .slot .footer,
    .text "\n"
  ]

/-- The template that an engine makes of the built-in layouts. -/
def builtInBy (engine : Engine) (product support : String) : Except LayoutError Template :=
  Template.load engine (String.ofList (sourceOf builtInHtml)) (String.ofList (sourceOf builtInText))
    product support

/-- The template of the built-in layouts. -/
def builtIn (product support : String) : Except LayoutError Template :=
  builtInBy (.standard []) product support

end JobNotice.Layout
