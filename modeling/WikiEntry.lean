import WikiEntry.CommandLine.Arguments
import WikiEntry.CommandLine.Run
import WikiEntry.Config.Basic
import WikiEntry.Config.Builtin
import WikiEntry.Config.Load
import WikiEntry.Config.Settings
import WikiEntry.Editor
import WikiEntry.Error
import WikiEntry.Grammar.Category
import WikiEntry.Grammar.Descriptor
import WikiEntry.Grammar.Forms
import WikiEntry.Json.Basic
import WikiEntry.Json.Reader
import WikiEntry.Main
import WikiEntry.Page.Basic
import WikiEntry.Page.Edit
import WikiEntry.Page.Order
import WikiEntry.Page.Outline
import WikiEntry.Page.Read
import WikiEntry.Page.Render
import WikiEntry.Pattern.Basic
import WikiEntry.Pattern.Bracket
import WikiEntry.Pattern.Build
import WikiEntry.Pattern.CharSet
import WikiEntry.Pattern.Combine
import WikiEntry.Pattern.Ends
import WikiEntry.Pattern.Escape
import WikiEntry.Pattern.Flags
import WikiEntry.Pattern.Named
import WikiEntry.Pattern.Property
import WikiEntry.Pattern.Reached
import WikiEntry.Pattern.Reader
import WikiEntry.Pattern.Search
import WikiEntry.Pattern.Segmentation
import WikiEntry.Pattern.Way
import WikiEntry.Proofs.Editor
import WikiEntry.Proofs.Error
import WikiEntry.Proofs.Footnote.Groups
import WikiEntry.Proofs.Footnote.ListTags
import WikiEntry.Proofs.Footnote.Naming
import WikiEntry.Proofs.Footnote.ReadBack
import WikiEntry.Proofs.Footnote.Shown
import WikiEntry.Proofs.Footnote.TakenTags
import WikiEntry.Proofs.Footnote.Uniting
import WikiEntry.Proofs.LegacyLayout.Convert
import WikiEntry.Proofs.LegacyLayout.Detection
import WikiEntry.Proofs.LegacyLayout.Insertion
import WikiEntry.Proofs.LegacyLayout.Lines
import WikiEntry.Proofs.LegacyLayout.Names
import WikiEntry.Proofs.LegacyLayout.Pages
import WikiEntry.Proofs.LegacyLayout.Sections
import WikiEntry.Proofs.LegacyLayout.Spellings
import WikiEntry.Proofs.LegacyLayout.Visible
import WikiEntry.Proofs.Link.Reading
import WikiEntry.Proofs.Link.Rewriting
import WikiEntry.Proofs.Page.Cutting
import WikiEntry.Proofs.Page.EqualLevels
import WikiEntry.Proofs.Page.Failure
import WikiEntry.Proofs.Page.Forest
import WikiEntry.Proofs.Page.HeaderGrammar
import WikiEntry.Proofs.Page.HeaderLines
import WikiEntry.Proofs.Page.LanguageOrder
import WikiEntry.Proofs.Page.LevelRounds
import WikiEntry.Proofs.Page.Levels
import WikiEntry.Proofs.Page.Moved
import WikiEntry.Proofs.Page.Nearest
import WikiEntry.Proofs.Page.Parts
import WikiEntry.Proofs.Page.PartsRead
import WikiEntry.Proofs.Page.Places
import WikiEntry.Proofs.Page.Reachable
import WikiEntry.Proofs.Page.Rearranged
import WikiEntry.Proofs.Page.RoundTrip
import WikiEntry.Proofs.Page.Rows
import WikiEntry.Proofs.Page.SortedChildren
import WikiEntry.Proofs.Page.Subtree
import WikiEntry.Proofs.Page.TrailingLinks
import WikiEntry.Proofs.Pattern.Between
import WikiEntry.Proofs.Pattern.Beyond
import WikiEntry.Proofs.Pattern.Complete
import WikiEntry.Proofs.Pattern.Greedy
import WikiEntry.Proofs.Pattern.Matched
import WikiEntry.Proofs.Prose.Basic
import WikiEntry.Proofs.Prose.Check
import WikiEntry.Proofs.Prose.Rules
import WikiEntry.Proofs.Region.Correspondence
import WikiEntry.Proofs.Region.Delimiters
import WikiEntry.Proofs.Region.Exchange
import WikiEntry.Proofs.Region.Marked
import WikiEntry.Proofs.Region.Merging
import WikiEntry.Proofs.Region.Padding
import WikiEntry.Proofs.Region.Replacement
import WikiEntry.Proofs.Region.Respacing
import WikiEntry.Proofs.Region.Revision
import WikiEntry.Proofs.Region.Sanitized
import WikiEntry.Proofs.Region.Union
import WikiEntry.Proofs.Region.Walk
import WikiEntry.Proofs.Rule.DefinitionNumbers
import WikiEntry.Proofs.Rule.DissolvedSections
import WikiEntry.Proofs.Rule.EmptySections
import WikiEntry.Proofs.Rule.Levels
import WikiEntry.Proofs.Rule.Lines
import WikiEntry.Proofs.Rule.Safety
import WikiEntry.Proofs.Rule.SeveralReferences
import WikiEntry.Proofs.Rule.StrayLists
import WikiEntry.Proofs.Rule.TemplateNames
import WikiEntry.Proofs.Rule.TemplateNamespaces
import WikiEntry.Proofs.Section.Comparison
import WikiEntry.Proofs.Section.LanguageParams
import WikiEntry.Proofs.Section.Languages
import WikiEntry.Proofs.Section.StrippedHeader
import WikiEntry.Proofs.Store.Memory
import WikiEntry.Proofs.Template.Balanced
import WikiEntry.Proofs.Template.Closing
import WikiEntry.Proofs.Template.Comments
import WikiEntry.Proofs.Template.Depth
import WikiEntry.Proofs.Template.Edited
import WikiEntry.Proofs.Template.Exchange
import WikiEntry.Proofs.Template.Nesting
import WikiEntry.Proofs.Template.PlainNames
import WikiEntry.Proofs.Template.Renamed
import WikiEntry.Proofs.Template.RoundTrip
import WikiEntry.Proofs.Text.Absent
import WikiEntry.Proofs.Text.Lines
import WikiEntry.Proofs.Text.NonblankLines
import WikiEntry.Proofs.Text.Numbers
import WikiEntry.Proofs.Text.Occurrences
import WikiEntry.Proofs.Text.Trimming
import WikiEntry.Region.Replacement
import WikiEntry.Region.Scan
import WikiEntry.Region.Union
import WikiEntry.Rule.All
import WikiEntry.Rule.Basic
import WikiEntry.Rule.Categories
import WikiEntry.Rule.Clearing
import WikiEntry.Rule.Comments
import WikiEntry.Rule.Definitions
import WikiEntry.Rule.EtymologyLines
import WikiEntry.Rule.Footnotes
import WikiEntry.Rule.Headers
import WikiEntry.Rule.Inflection
import WikiEntry.Rule.LanguageCodes
import WikiEntry.Rule.Leftovers
import WikiEntry.Rule.LegacyLayout
import WikiEntry.Rule.Levels
import WikiEntry.Rule.LineJoining
import WikiEntry.Rule.LineTemplates
import WikiEntry.Rule.Links
import WikiEntry.Rule.Marks
import WikiEntry.Rule.MissingSections
import WikiEntry.Rule.References
import WikiEntry.Rule.Safety
import WikiEntry.Rule.SectionOrder
import WikiEntry.Rule.SectionTemplates
import WikiEntry.Rule.SuperfluousSections
import WikiEntry.Rule.TemplateNames
import WikiEntry.Rule.WhiteSpace
import WikiEntry.Section.Basic
import WikiEntry.Section.Body
import WikiEntry.Section.Header
import WikiEntry.Section.Language
import WikiEntry.Store.Basic
import WikiEntry.Store.FileTree
import WikiEntry.Store.Memory
import WikiEntry.Store.PageFolder
import WikiEntry.Store.Path
import WikiEntry.Template.Basic
import WikiEntry.Template.Find
import WikiEntry.Template.Parse
import WikiEntry.TemplateDepth
import WikiEntry.Text.Age
import WikiEntry.Text.Basic
import WikiEntry.Text.Blank
import WikiEntry.Text.Case
import WikiEntry.Text.CaseTable
import WikiEntry.Text.Classes
import WikiEntry.Text.CodePoints
import WikiEntry.Text.Collation
import WikiEntry.Text.GeneralCategory
import WikiEntry.Text.Offset
import WikiEntry.Text.Property
import WikiEntry.Text.Script
import WikiEntry.Proofs.Rule.Boilerplate
import WikiEntry.Proofs.CommandLine.Source
import WikiEntry.Proofs.Region.Nested
import WikiEntry.Proofs.Template.Peeling
import WikiEntry.Proofs.Rule.EtymologyLines
