import PathStore.Bucket
import PathStore.Bucket.Listing
import PathStore.Bucket.Store
import PathStore.Bytes
import PathStore.Bytes.Base64
import PathStore.Bytes.Splice
import PathStore.Bytes.Utf16
import PathStore.Bytes.Utf7
import PathStore.Bytes.Utf8
import PathStore.Console
import PathStore.Console.Command
import PathStore.Console.Report
import PathStore.Console.Wrapping
import PathStore.Digest.Keyed
import PathStore.Digest.Sha1
import PathStore.Disturbance
import PathStore.Driver
import PathStore.Failure
import PathStore.Http.Exchange
import PathStore.Http.MediaType
import PathStore.Http.Message
import PathStore.Http.Redirect
import PathStore.Instant
import PathStore.Json
import PathStore.Json.Display
import PathStore.Json.Reader
import PathStore.Json.Writer
import PathStore.Main
import PathStore.Number.Binary64
import PathStore.Number.Numeral
import PathStore.Number.Shortest
import PathStore.ObjectInfo
import PathStore.Part
import PathStore.Part.Plan
import PathStore.Part.Splice
import PathStore.Path
import PathStore.Program
import PathStore.Program.Interleaving
import PathStore.Proofs.Bucket.Children
import PathStore.Proofs.Bucket.Paging
import PathStore.Proofs.Bucket.Regions
import PathStore.Proofs.Bucket.Rolling
import PathStore.Proofs.Bucket.Tiling
import PathStore.Proofs.Bytes.Decoding
import PathStore.Proofs.Console.Exiting
import PathStore.Proofs.Console.Printing
import PathStore.Proofs.Driver.Appending
import PathStore.Proofs.Driver.Atomicity
import PathStore.Proofs.Driver.Blaming
import PathStore.Proofs.Driver.Breaking
import PathStore.Proofs.Driver.BusyDeleting
import PathStore.Proofs.Driver.BusyListing
import PathStore.Proofs.Driver.Contending
import PathStore.Proofs.Driver.Deleting
import PathStore.Proofs.Driver.Describing
import PathStore.Proofs.Driver.Doubling
import PathStore.Proofs.Driver.Downloading
import PathStore.Proofs.Driver.Expiring
import PathStore.Proofs.Driver.Footprint
import PathStore.Proofs.Driver.Heeding
import PathStore.Proofs.Driver.Isolation
import PathStore.Proofs.Driver.Listing
import PathStore.Proofs.Driver.Locating
import PathStore.Proofs.Driver.Moving
import PathStore.Proofs.Driver.Objecting
import PathStore.Proofs.Driver.Overlapping
import PathStore.Proofs.Driver.Racing
import PathStore.Proofs.Driver.Refusing
import PathStore.Proofs.Driver.Renaming
import PathStore.Proofs.Driver.Reordering
import PathStore.Proofs.Driver.Replacing
import PathStore.Proofs.Driver.Retrying
import PathStore.Proofs.Driver.Steps
import PathStore.Proofs.Driver.Streaming
import PathStore.Proofs.Driver.Tidiness
import PathStore.Proofs.Driver.Workers
import PathStore.Proofs.Driver.Writing
import PathStore.Proofs.Http.Redirecting
import PathStore.Proofs.Http.Sending
import PathStore.Proofs.Json.Integers
import PathStore.Proofs.Json.Reading
import PathStore.Proofs.Json.Texts
import PathStore.Proofs.Number.Blanks
import PathStore.Proofs.Number.Digits
import PathStore.Proofs.Number.Rounding
import PathStore.Proofs.Path.Grammar
import PathStore.Proofs.Path.Segments
import PathStore.Proofs.Program.Alone
import PathStore.Proofs.Program.Faults
import PathStore.Proofs.Program.Footprint
import PathStore.Proofs.Program.Meeting
import PathStore.Proofs.Program.Outcomes
import PathStore.Proofs.Program.Owing
import PathStore.Proofs.Program.Visits
import PathStore.Proofs.Root.Keys
import PathStore.Proofs.Root.RoundTrip
import PathStore.Proofs.Root.Stem
import PathStore.Proofs.Service.Asking
import PathStore.Proofs.Service.Carrying
import PathStore.Proofs.Service.Composing
import PathStore.Proofs.Service.Garbling
import PathStore.Proofs.Service.Managing
import PathStore.Proofs.Service.Manifest
import PathStore.Proofs.Service.Order
import PathStore.Proofs.Service.Posting
import PathStore.Proofs.Service.Refusing
import PathStore.Proofs.Service.Requesting
import PathStore.Proofs.Service.Signing
import PathStore.Proofs.Service.Understanding
import PathStore.Proofs.Settings.Loading
import PathStore.Proofs.Settings.Parameters
import PathStore.Proofs.Settings.Soundness
import PathStore.Proofs.Source.Delivery
import PathStore.Proofs.Source.Limiting
import PathStore.Proofs.Stream.Breaking
import PathStore.Proofs.Stream.Reading
import PathStore.Proofs.Url.Below
import PathStore.Proofs.Url.DotSegments
import PathStore.Proofs.Url.Escaping
import PathStore.Proofs.Url.Forms
import PathStore.Proofs.Url.Splitting
import PathStore.Registry
import PathStore.Root
import PathStore.Service
import PathStore.Service.Answer
import PathStore.Service.Credentials
import PathStore.Service.Form
import PathStore.Settings
import PathStore.Settings.Loader
import PathStore.Source
import PathStore.Source.Bounded
import PathStore.Source.Exact
import PathStore.Store
import PathStore.Stream
import PathStore.Text.Blank
import PathStore.Text.Case
import PathStore.Text.Charset
import PathStore.Text.CodePage
import PathStore.Text.CodePage.Console
import PathStore.Text.CodePage.Cyrillic
import PathStore.Text.CodePage.Desktop
import PathStore.Text.CodePage.Ebcdic
import PathStore.Text.CodePage.Iso
import PathStore.Text.CodePage.Windows
import PathStore.Text.Composition
import PathStore.Text.DecimalDigit
import PathStore.Text.Direction
import PathStore.Text.Escaped
import PathStore.Text.Grid
import PathStore.Text.Grid.Chinese
import PathStore.Text.Grid.HongKong
import PathStore.Text.Grid.Japanese
import PathStore.Text.Grid.JapaneseExtension
import PathStore.Text.Grid.JapaneseSupplement
import PathStore.Text.Grid.JapaneseVendor
import PathStore.Text.Grid.Korean
import PathStore.Text.Grid.Taiwanese
import PathStore.Text.Hangul
import PathStore.Text.Kanji
import PathStore.Text.Loose
import PathStore.Text.Mark
import PathStore.Text.Multibyte
import PathStore.Text.NameLetter
import PathStore.Text.Printable
import PathStore.Text.Punycode
import PathStore.Text.Quoted
import PathStore.Text.Script
import PathStore.Text.Shifted
import PathStore.Url.Address
import PathStore.Url.Escape
import PathStore.Url.HostName
import PathStore.Url.IpAddress
import PathStore.Url.Reference
import PathStore.Workspace
